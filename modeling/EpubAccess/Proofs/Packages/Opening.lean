/-
  EpubAccess.Proofs.Packages.Opening
  ────────────────────────────────
  What opening an archive comes to.

  `Gateway.Reads h d cs a m` says of the work `m` that it makes the calls `cs`
  about a package that `d` describes, and answers `a`.  It is closed under
  sequencing, so that loading a package is read off its questions
  (`Package.load_reads`), and loading all of them off loading each
  (`Gateway.loadAll_reads`).

  Main results:

    • `Engine.live_issueAll_new` and `Engine.live_issueAll_old`: which objects
      the engine has after it made several,
    • `Host.openContainer_found`: the host after an archive was opened, as one
      equation,
    • `Host.container_opens`: the same in terms of what can be looked up, for
      every path and every state of the engine.
-/
import EpubAccess.Proofs.Engine.Registry
import EpubAccess.Proofs.Ownership.Runs

namespace EpubAccess

open Stateful

/-! ## §1. Calls and objects in a row. -/

namespace Engine

variable {e : Engine}

/-- Calls recorded one after the other. -/
def recordAll (e : Engine) (cs : List Call) : Engine := { e with calls := e.calls ++ cs.toArray }

theorem recordAll_nil : e.recordAll [] = e := by
  unfold recordAll
  rw [show ([] : List Call).toArray = #[] from rfl, Array.append_empty]

theorem recordAll_append (cs cs' : List Call) :
    (e.recordAll cs).recordAll cs' = e.recordAll (cs ++ cs') := by
  unfold recordAll
  simp only [List.append_toArray, Array.append_assoc]

theorem record_eq_recordAll (c : Call) : e.record c = e.recordAll [c] := by
  unfold record recordAll
  rw [Array.push_eq_append]

/-- Recording does not matter to what is issued. -/
theorem allocate_recordAll (cs : List Call) (o : LiveObject) :
    ((e.recordAll cs).allocate o).2 = (e.allocate o).2.recordAll cs := rfl

theorem issueAll_recordAll (cs : List Call) (os : List LiveObject) :
    (e.recordAll cs).issueAll os = (e.issueAll os).recordAll cs := by
  induction os generalizing e with
  | nil => rfl
  | cons o os ih => exact ih (e := (e.allocate o).2)

theorem archives_issueAll (os : List LiveObject) : (e.issueAll os).archives = e.archives := by
  obtain ⟨live, h⟩ := issueAll_eq os e
  rw [h]

theorem calls_issueAll (os : List LiveObject) : (e.issueAll os).calls = e.calls := by
  obtain ⟨live, h⟩ := issueAll_eq os e
  rw [h]

/-- All that changes when objects are made and calls recorded. -/
theorem issueAll_recordAll_eq (os : List LiveObject) (cs : List Call) :
    (e.issueAll os).recordAll cs = { e with
      live := ((e.issueAll os).recordAll cs).live
      issued := e.issued + os.length
      calls := ((e.issueAll os).recordAll cs).calls } := by
  obtain ⟨live, h⟩ := issueAll_eq os e
  rw [h]
  rfl

/-- Objects under other handles are as before. -/
theorem live_issueAll_old (os : List LiveObject) {h : Handle}
    (hnew : ∀ i < os.length, h ≠ .issuedAfter (e.issued + i)) :
    (e.issueAll os).live[h]? = e.live[h]? := by
  -- one object is made, and the others as by an engine that issued one handle more
  induction os generalizing e with
  | nil => rfl
  | cons o os ih =>
    have hfirst : h ≠ .issuedAfter e.issued := hnew 0 (Nat.zero_lt_succ _)
    have hrest : ∀ i < os.length, h ≠ .issuedAfter ((e.allocate o).2.issued + i) := by
      intro i hi
      have hi' := hnew (i + 1) (Nat.succ_lt_succ hi)
      rwa [← Nat.add_assoc, Nat.add_right_comm] at hi'
    show ((e.allocate o).2.issueAll os).live[h]? = _
    rw [ih hrest]
    show (e.live.insert (.issuedAfter e.issued) o)[h]? = _
    rw [Std.ExtTreeMap.getElem?_insert, if_neg]
    exact fun heq => hfirst (Std.LawfulEqCmp.eq_of_compare heq).symm

/-- The new objects stand under the next handles, in order. -/
theorem live_issueAll_new (os : List LiveObject) {i : Nat} (hi : i < os.length) :
    (e.issueAll os).live[Handle.issuedAfter (e.issued + i)]? = os[i]? := by
  induction os generalizing e i with
  | nil => exact absurd hi (Nat.not_lt_zero i)
  | cons o os ih =>
    show ((e.allocate o).2.issueAll os).live[_]? = _
    cases i with
    | zero =>
      -- no later object comes under the handle of the first
      have hlater : ∀ j < os.length, Handle.issuedAfter (e.issued + 0)
          ≠ .issuedAfter ((e.allocate o).2.issued + j) := by
        intro j _ heq
        have hnumber : e.issued + 0 = e.issued + 1 + j := Handle.issuedAfter_injective heq
        omega
      rw [live_issueAll_old os hlater]
      exact Std.ExtTreeMap.getElem?_insert_self
    | succ i =>
      rw [← Nat.add_assoc, Nat.add_right_comm]
      exact ih (e := (e.allocate o).2) (Nat.lt_of_succ_lt_succ hi)

/-- The package behind a handle is one that `d` describes. -/
def Serves (e : Engine) (h : Handle) (d : PackageDescription) : Prop :=
  ∃ container archive index,
    e.live[h]? = some (.package container archive index) ∧ e.description? archive index = some d

theorem Serves.recordAll {h : Handle} {d : PackageDescription} (hd : e.Serves h d)
    (cs : List Call) :
    (e.recordAll cs).Serves h d := hd

end Engine

/-! ## §2. Reading off a package. -/

/-- The calls of loading a package. -/
def Call.loading (h : Handle) : List Call :=
  MetadataField.all.map (.metadata h) ++ [.authorList h, .subjects h]
    ++ ["layout", "flow", "orientation", "spread"].map (.property h · renditionVocabulary)
    ++ [.spineItems h, .manifestItems h, .mediaOverlay h]

/-- The metadata of a description, slot by slot. -/
def PackageDescription.facts (d : PackageDescription) : Metadata :=
  { title := d.metadata .title
    subtitle := d.metadata .subtitle
    shortTitle := d.metadata .shortTitle
    collectionTitle := d.metadata .collectionTitle
    editionTitle := d.metadata .editionTitle
    expandedTitle := d.metadata .expandedTitle
    fullTitle := d.metadata .fullTitle
    uniqueId := d.metadata .uniqueId
    urlSafeUniqueId := d.metadata .urlSafeUniqueId
    packageId := d.metadata .packageId
    basePath := d.metadata .basePath
    packageType := d.metadata .type
    version := d.metadata .version
    isbn := d.metadata .isbn
    language := d.metadata .language
    copyrightOwner := d.metadata .copyrightOwner
    source := d.metadata .source
    authors := d.metadata .authors
    authorList := d.authorList
    subjects := d.subjects
    modificationDate := d.metadata .modificationDate
    pageProgressionDirection := d.metadata .pageProgressionDirection
    rendition :=
      { layout := d.property? ⟨renditionVocabulary, "layout"⟩
        flow := d.property? ⟨renditionVocabulary, "flow"⟩
        orientation := d.property? ⟨renditionVocabulary, "orientation"⟩
        spread := d.property? ⟨renditionVocabulary, "spread"⟩ } }

/-- The package that is loaded off a description. -/
def PackageDescription.loaded (d : PackageDescription) (h : Handle) (link : Option ContainerLink)
    (config : Config) : Package :=
  { handle := .take h .package
    link
    metadata := d.facts
    spine := d.spine
    manifest := d.manifest
    mediaOverlay := d.mediaOverlay
    navigationCache := fun _ => none
    rootUrls := ⟨config.rootUrl, some config.rootUrlMediaOverlay⟩
    bufferSizeHint := config.bufferSizeHint
    maxReadAll := config.maxReadAll }

namespace Gateway

variable {α β : Type} {h : Handle} {d : PackageDescription} {cs cs' : List Call} {a : α} {b : β}

/-- The work makes the calls `cs` about a package that `d` describes and answers
`a`.  Nothing else changes in the engine, and of the rest only the log. -/
def Reads (h : Handle) (d : PackageDescription) (cs : List Call) (a : α) (m : StateM Gateway α) :
    Prop :=
  ∀ g, g.engine.Serves h d → ∃ events, m g = (a, { g with
    engine := g.engine.recordAll cs
    events := events })

namespace Reads

theorem pure (a : α) : Reads h d [] a (pure a) := by
  intro g _
  refine ⟨g.events, ?_⟩
  rw [Engine.recordAll_nil]
  rfl

theorem pure_eq {a b : α} (heq : b = a) : Reads h d [] a (Pure.pure b) := heq ▸ .pure b

theorem emit (e : Event) : Reads h d [] () (Gateway.emit e) := by
  intro g _
  refine ⟨g.events.push e, ?_⟩
  rw [Engine.recordAll_nil]
  rfl

theorem bind {m : StateM Gateway α} {f : α → StateM Gateway β} (hm : Reads h d cs a m)
    (hf : Reads h d cs' b (f a)) : Reads h d (cs ++ cs') b (m >>= f) := by
  intro g hg
  obtain ⟨events, hm⟩ := hm g hg
  obtain ⟨events', hf⟩ := hf { g with engine := g.engine.recordAll cs, events := events } hg
  refine ⟨events', ?_⟩
  rw [bind_apply, hm, hf, ← Engine.recordAll_append]

/-- What comes of an answer without a call. -/
theorem answer {m : StateM Gateway α} {f : α → StateM Gateway β} (hm : Reads h d cs a m)
    (hf : Reads h d [] b (f a)) : Reads h d cs b (m >>= f) := by
  have hboth := hm.bind hf
  rwa [List.append_nil] at hboth

/-- A recorded question to the package. -/
theorem call (c : Call) (absent : α) (f : PackageDescription → α) :
    Reads h d [c] (f d) (Gateway.call fun e => (e.record c).onPackage h absent f) := by
  rintro g ⟨container, archive, index, hlive, hdescription⟩
  have hanswer : (g.engine.record c).onPackage h absent f = (f d, g.engine.record c) := by
    unfold Engine.onPackage
    rw [show (g.engine.record c).live[h]? = _ from hlive]
    dsimp only
    rw [show (g.engine.record c).description? archive index = _ from hdescription]
  refine ⟨g.events, ?_⟩
  unfold Gateway.call
  dsimp only
  rw [hanswer, Engine.record_eq_recordAll]

/-- What is gathered over a list, one question at a time. -/
theorem foldlM {γ : Type} {f : α → γ → StateM Gateway α} {call : γ → Call} {next : α → γ → α}
    (hf : ∀ a x, Reads h d [call x] (next a x) (f a x)) (xs : List γ) (a : α) :
    Reads h d (xs.map call) (xs.foldl next a) (xs.foldlM f a) := by
  induction xs generalizing a with
  | nil => exact .pure a
  | cons x xs ih =>
    rw [List.foldlM_cons]
    exact (hf a x).bind (ih (next a x))

end Reads

end Gateway

/-- Every slot holds what the description says of its field. -/
theorem PackageDescription.scalar_facts (d : PackageDescription) (field : MetadataField) :
    d.facts.scalar field = d.metadata field := by
  cases field <;> rfl

namespace Package

open Gateway (Reads)

variable (h : Handle) (d : PackageDescription)

theorem loadMetadata_reads :
    Reads h d
      (MetadataField.all.map (.metadata h) ++ [.authorList h, .subjects h]
        ++ ["layout", "flow", "orientation", "spread"].map (.property h · renditionVocabulary))
      d.facts (loadMetadata h) := by
  have hfield : ∀ m field, Reads h d [.metadata h field]
      (m.assign field (d.facts.scalar field)) (loadField h m field) := by
    intro m field
    rw [d.scalar_facts]
    exact .answer (.call _ _ _) (.pure _)
  have hproperty : ∀ name, Reads h d [.property h name renditionVocabulary]
      (d.property? ⟨renditionVocabulary, name⟩) (Gateway.property h name renditionVocabulary) :=
    fun _ => .call _ _ _
  have hauthors : Reads h d [.authorList h] d.authorList (Gateway.authorList h) := .call _ _ _
  have hsubjects : Reads h d [.subjects h] d.subjects (Gateway.subjects h) := .call _ _ _
  have hfilled := Metadata.foldl_assign .empty d.facts
  rw [List.append_assoc]
  refine (Reads.foldlM hfield MetadataField.all .empty).bind (hauthors.bind (hsubjects.bind ?_))
  refine (hproperty _).bind ((hproperty _).bind ((hproperty _).bind ((hproperty _).answer ?_)))
  exact .pure_eq hfilled

/-- **Loading a package** makes the same calls in the same order about its handle
and gives what the description says. -/
theorem load_reads (config : Config) :
    Reads h d (Call.loading h) (d.loaded h none config) (load h config) := by
  have hspine : Reads h d [.spineItems h] d.spine (Gateway.spineItems h) := .call _ _ _
  refine (loadMetadata_reads h d).bind ?_
  refine hspine.bind (.bind (.call _ _ _) (.answer (.call _ _ _) ?_))
  exact .answer (.emit _) (.pure _)

end Package

/-! ## §3. Opening an archive. -/

namespace Gateway

/-- Packages loaded one after the other, each off its own description. -/
theorem loadAll_reads (config : Config) (ps : List (PackageDescription × Handle)) (g : Gateway)
    (hserves : ∀ x ∈ ps, g.engine.Serves x.2 x.1) :
    ∃ events, (ps.map Prod.snd).mapM (Package.load · config) g
      = (ps.map fun x => x.1.loaded x.2 none config,
        { g with
          engine := g.engine.recordAll (ps.flatMap fun x => Call.loading x.2)
          events := events }) := by
  -- the calls for one package change nothing that is asked about the next
  induction ps generalizing g with
  | nil =>
    refine ⟨g.events, ?_⟩
    rw [List.flatMap_nil, Engine.recordAll_nil]
    rfl
  | cons x ps ih =>
    obtain ⟨events, hload⟩ := Package.load_reads x.2 x.1 config g (hserves x List.mem_cons_self)
    obtain ⟨events', hrest⟩ := ih
      { g with engine := g.engine.recordAll (Call.loading x.2), events := events }
      fun y hy => (hserves y (List.mem_cons_of_mem _ hy)).recordAll _
    refine ⟨events', ?_⟩
    rw [List.map_cons, mapM_cons_apply, hload, hrest, Engine.recordAll_append, List.flatMap_cons,
      List.map_cons]

/-- An archive that is not there, or is refused. -/
theorem openArchive_refused {g : Gateway} {n : Nat} (path : String)
    (hn : g.faults.refusedOpens = n + 1) :
    openArchive path g = (none, { g with faults := { g.faults with refusedOpens := n } }) := by
  unfold openArchive refusable
  rw [hn]

theorem openArchive_absent {g : Gateway} {path : String} (hcalm : g.faults.refusedOpens = 0)
    (ha : g.engine.archives[path]? = none) :
    openArchive path g = (none, { g with engine := g.engine.record (.open path) }) := by
  have hmem : path ∉ (g.engine.record (.open path)).archives := by
    show path ∉ g.engine.archives
    rw [Std.ExtTreeMap.mem_iff_isSome_getElem?, ha]
    exact Bool.false_ne_true
  unfold openArchive refusable
  rw [hcalm]
  dsimp only [call, Engine.openArchive]
  rw [if_neg hmem]

theorem openArchive_found {g : Gateway} {path : String} {a : Archive}
    (hcalm : g.faults.refusedOpens = 0) (ha : g.engine.archives[path]? = some a) :
    openArchive path g = (some (.issuedAfter g.engine.issued),
      { g with engine := ((g.engine.record (.open path)).allocate (.container path)).2 }) := by
  have hmem : path ∈ (g.engine.record (.open path)).archives := by
    show path ∈ g.engine.archives
    rw [Std.ExtTreeMap.mem_iff_isSome_getElem?, ha]
    rfl
  unfold openArchive refusable
  rw [hcalm]
  dsimp only [call, Engine.openArchive]
  rw [if_pos hmem]
  rfl

/-- What a container is asked. -/
theorem containerVersion_found {g : Gateway} {h : Handle} {path : String} {a : Archive}
    (hlive : g.engine.live[h]? = some (.container path)) (ha : g.engine.archives[path]? = some a) :
    containerVersion h g
      = (a.version, { g with engine := g.engine.record (.containerVersion h) }) := by
  unfold containerVersion call Engine.containerVersion Engine.onContainer
  dsimp only
  rw [show (g.engine.record (.containerVersion h)).live[h]? = _ from hlive]
  dsimp only
  rw [show (g.engine.record (.containerVersion h)).archives[path]? = _ from ha]
  rfl

theorem packages_found {g : Gateway} {h : Handle} {path : String} {a : Archive}
    (hlive : g.engine.live[h]? = some (.container path)) (ha : g.engine.archives[path]? = some a) :
    packages h g = ((List.range' g.engine.issued a.packages.length).map .issuedAfter,
      { g with
        engine := (g.engine.record (.packages h)).issueAll
          ((List.range' 0 a.packages.length).map fun i => .package h path i) }) := by
  unfold packages call Engine.packages Engine.onContainer
  dsimp only
  rw [show (g.engine.record (.packages h)).live[h]? = _ from hlive]
  dsimp only
  rw [show (g.engine.record (.packages h)).archives[path]? = _ from ha]
  dsimp only [Option.map_some, Option.getD_some]
  rw [Engine.allocatePackages_eq]
  rfl

end Gateway

/-- The objects of an archive that was opened: the container and its packages. -/
def LiveObject.opened (path : String) (h : Handle) (count : Nat) : List LiveObject :=
  .container path :: (List.range' 0 count).map fun i => .package h path i

/-- The calls of opening an archive. -/
def Call.opening (path : String) (h : Handle) (hs : List Handle) : List Call :=
  [.open path, .containerVersion h, .packages h] ++ hs.flatMap Call.loading

namespace Archive

/-- The packages of an archive, each with the handle that it gets when `issued`
handles were issued before. -/
def handled (a : Archive) (issued : Nat) : List (PackageDescription × Handle) :=
  (a.packages.zipIdx issued).map fun x => (x.1, .issuedAfter x.2)

variable (a : Archive) (issued : Nat)

theorem length_handled : (a.handled issued).length = a.packages.length := by
  unfold handled
  rw [List.length_map, List.length_zipIdx]

theorem handles_handled : (a.handled issued).map Prod.snd
    = (List.range' issued a.packages.length).map .issuedAfter := by
  unfold handled
  rw [← List.zipIdx_map_snd issued a.packages, List.map_map, List.map_map]
  rfl

theorem getElem?_handled {i : Nat} {d : PackageDescription} (hd : a.packages[i]? = some d) :
    (a.handled issued)[i]? = some (d, .issuedAfter (issued + i)) := by
  unfold handled
  rw [List.getElem?_map, List.getElem?_zipIdx, hd]
  rfl

theorem mem_handled {x : PackageDescription × Handle} (hx : x ∈ a.handled issued) :
    ∃ i, a.packages[i]? = some x.1 ∧ x.2 = .issuedAfter (issued + i) := by
  obtain ⟨i, hi⟩ := List.mem_iff_getElem?.mp hx
  cases hd : a.packages[i]? with
  | none =>
    rw [List.getElem?_eq_none_iff, ← a.length_handled issued, ← List.getElem?_eq_none_iff] at hd
    exact absurd (hi.symm.trans hd) (by simp)
  | some d =>
    rw [a.getElem?_handled issued hd, Option.some.injEq] at hi
    rw [← hi]
    exact ⟨i, hd, rfl⟩

end Archive

namespace Engine

variable {e : Engine} {path : String} {a : Archive}

theorem length_opened (h : Handle) (count : Nat) :
    (LiveObject.opened path h count).length = count + 1 := by
  unfold LiveObject.opened
  rw [List.length_cons, List.length_map, List.length_range']

/-- The packages of an archive that was opened stand behind its container. -/
theorem live_opened {i count : Nat} (hi : i < count) :
    (e.issueAll (LiveObject.opened path (.issuedAfter e.issued) count)).live[
        Handle.issuedAfter (e.issued + 1 + i)]?
      = some (.package (.issuedAfter e.issued) path i) := by
  have hnew := live_issueAll_new (e := e) (i := i + 1)
    (LiveObject.opened path (.issuedAfter e.issued) count)
    (by rw [length_opened]; exact Nat.succ_lt_succ hi)
  rw [Nat.add_assoc, Nat.add_comm 1, hnew]
  unfold LiveObject.opened
  rw [List.getElem?_cons_succ, List.getElem?_map, List.getElem?_range' hi]
  simp

/-- Every package of an archive that was opened is served as it is described. -/
theorem serves_opened (ha : e.archives[path]? = some a) {x : PackageDescription × Handle}
    (hx : x ∈ a.handled (e.issued + 1)) :
    (e.issueAll (LiveObject.opened path (.issuedAfter e.issued) a.packages.length)).Serves
      x.2 x.1 := by
  obtain ⟨i, hd, hh⟩ := a.mem_handled _ hx
  obtain ⟨hi, -⟩ := List.getElem?_eq_some_iff.mp hd
  refine ⟨.issuedAfter e.issued, path, i, hh ▸ live_opened hi, ?_⟩
  unfold description?
  rw [archives_issueAll, ha]
  exact hd

end Engine

namespace Host

variable {w : Host} {path : String} {a : Archive}

/-- Packages loaded and attached, each off its own description. -/
theorem loadPackages_reads (link : ContainerLink) (config : Config)
    (ps : List (PackageDescription × Handle)) (w : Host)
    (hserves : ∀ x ∈ ps, w.gateway.engine.Serves x.2 x.1) :
    ∃ events, loadPackages link config (ps.map Prod.snd) w
      = (List.range' w.packages.next ps.length,
        { w with
          gateway := { w.gateway with
            engine := w.gateway.engine.recordAll (ps.flatMap fun x => Call.loading x.2)
            events := events }
          packages :=
            (w.packages.addAll (ps.map fun x => x.1.loaded x.2 (some link) config)).2 }) := by
  obtain ⟨events, hload⟩ := Gateway.loadAll_reads config ps w.gateway hserves
  refine ⟨events, ?_⟩
  rw [loadPackages_eq, hload, List.map_map, Pool.addAll_fst, List.length_map]
  rfl

/-- A container is opened by opening the archive, asking for its version and its
packages, and loading these. -/
theorem openContainer_of_steps {config : Config} {h : Handle} {g₁ g₂ g₃ : Gateway}
    {version : Option String} {hs : List Handle} {ids : List PackageId} {w' : Host}
    (hopen : Gateway.openArchive path w.gateway = (some h, g₁))
    (hversion : Gateway.containerVersion h g₁ = (version, g₂))
    (hpackages : Gateway.packages h g₂ = (hs, g₃))
    (hload : loadPackages ⟨w.containers.next, path⟩ config hs { w with gateway := g₃ }
      = (ids, w')) :
    openContainer path config w = (.ok w'.containers.next,
      { w' with
        containers := (w'.containers.add
          { handle := .take h .container, path, version, packages := ids, config }).2
        gateway := (Gateway.emit (.containerOpened path h ids.length) w'.gateway).2 }) := by
  unfold openContainer
  simp only [bind_apply, through_apply, get_apply, set_apply, pure_apply, hopen,
    hversion, hpackages, hload]
  rfl

/-- **The host after an archive was opened.** -/
theorem openContainer_found (config : Config) (hcalm : w.gateway.faults.refusedOpens = 0)
    (ha : w.gateway.engine.archives[path]? = some a) :
    let e := w.gateway.engine
    let ps := a.handled (e.issued + 1)
    ∃ events, openContainer path config w = (.ok w.containers.next,
      withArrivals
        { handle := .take (.issuedAfter e.issued) .container
          path
          version := a.version
          packages := List.range' w.packages.next a.packages.length
          config }
        (ps.map fun x => x.1.loaded x.2 (some ⟨w.containers.next, path⟩) config)
        { w with gateway := { w.gateway with
            engine :=
              (e.issueAll (LiveObject.opened path (.issuedAfter e.issued)
                a.packages.length)).recordAll
                (Call.opening path (.issuedAfter e.issued) (ps.map Prod.snd))
            events := events } }) := by
  intro e ps
  let h := Handle.issuedAfter e.issued
  let g := w.gateway
  -- the engine when the container is there, and when its packages are there too
  let e₁ := ((e.record (.open path)).allocate (.container path)).2
  let e₂ := (e.issueAll (LiveObject.opened path h a.packages.length)).recordAll
    [.open path, .containerVersion h, .packages h]
  have hlive : e₁.live[h]? = some (.container path) := Std.ExtTreeMap.getElem?_insert_self
  have hissue : ((e₁.record (.containerVersion h)).record (.packages h)).issueAll
      ((List.range' 0 a.packages.length).map fun i => .package h path i) = e₂ := by
    simp only [e₁, Engine.record_eq_recordAll, Engine.allocate_recordAll, Engine.recordAll_append,
      Engine.issueAll_recordAll]
    rfl
  have hopen : Gateway.openArchive path g = (some h, { g with engine := e₁ }) :=
    Gateway.openArchive_found hcalm ha
  have hversion : Gateway.containerVersion h { g with engine := e₁ }
      = (a.version, { g with engine := e₁.record (.containerVersion h) }) :=
    Gateway.containerVersion_found hlive ha
  have hpackages : Gateway.packages h { g with engine := e₁.record (.containerVersion h) }
      = ((List.range' (e.issued + 1) a.packages.length).map .issuedAfter, { g with
          engine := ((e₁.record (.containerVersion h)).record (.packages h)).issueAll
            ((List.range' 0 a.packages.length).map fun i => .package h path i) }) :=
    Gateway.packages_found hlive ha
  rw [hissue, ← a.handles_handled] at hpackages
  obtain ⟨events, hload⟩ := loadPackages_reads ⟨w.containers.next, path⟩ config ps
    { w with gateway := { g with engine := e₂ } } fun x hx =>
      (Engine.serves_opened ha hx).recordAll _
  refine ⟨events.push (.containerOpened path h a.packages.length), ?_⟩
  rw [openContainer_of_steps hopen hversion hpackages hload, a.length_handled, List.length_range']
  have hcalls : e₂.recordAll (ps.flatMap fun x => Call.loading x.2)
      = (e.issueAll (LiveObject.opened path h a.packages.length)).recordAll
          (Call.opening path h (ps.map Prod.snd)) := by
    unfold Call.opening
    rw [List.flatMap_map, ← Engine.recordAll_append]
  dsimp only
  rw [hcalls]
  rfl

/-! ## §4. What can be looked up. -/

/-- The archive `a` was opened: the outcome `x` has a container under the next
handle and its packages under those that follow, each as it is described and
attached to the container; the engine has these objects and has recorded these
calls; and all else is as before. -/
structure ArchiveOpened (w : Host) (path : String) (config : Config) (a : Archive)
    (x : Except AccessError ContainerId × Host) : Prop where
  answer : x.1 = .ok w.containers.next
  container : x.2.containers.get? w.containers.next = some
    { handle := .take (.issuedAfter w.gateway.engine.issued) .container
      path
      version := a.version
      packages := List.range' w.packages.next a.packages.length
      config }
  packages : ∀ i d, a.packages[i]? = some d →
    x.2.packages.get? (w.packages.next + i) = some (d.loaded
      (.issuedAfter (w.gateway.engine.issued + 1 + i)) (some ⟨w.containers.next, path⟩) config)
  log : x.2.log = w.log ++ Call.opening path (.issuedAfter w.gateway.engine.issued)
    ((List.range' (w.gateway.engine.issued + 1) a.packages.length).map .issuedAfter)
  liveContainer : x.2.gateway.engine.live[Handle.issuedAfter w.gateway.engine.issued]?
    = some (.container path)
  livePackages : ∀ i < a.packages.length,
    x.2.gateway.engine.live[Handle.issuedAfter (w.gateway.engine.issued + 1 + i)]?
      = some (.package (.issuedAfter w.gateway.engine.issued) path i)
  liveOthers : ∀ h : Handle,
    (∀ i ≤ a.packages.length, h ≠ .issuedAfter (w.gateway.engine.issued + i)) →
      x.2.gateway.engine.live[h]? = w.gateway.engine.live[h]?
  engine : x.2.gateway.engine = { w.gateway.engine with
    live := x.2.gateway.engine.live
    issued := w.gateway.engine.issued + 1 + a.packages.length
    calls := x.2.gateway.engine.calls }
  oldContainers : ∀ id, id ≠ w.containers.next → x.2.containers.get? id = w.containers.get? id
  oldPackages : ∀ k, k < w.packages.next ∨ w.packages.next + a.packages.length ≤ k →
    x.2.packages.get? k = w.packages.get? k
  rest : x.2 = { w with
    gateway := { w.gateway with engine := x.2.gateway.engine, events := x.2.gateway.events }
    containers := x.2.containers
    packages := x.2.packages }

theorem opened_of_archive (config : Config) (hcalm : w.gateway.faults.refusedOpens = 0)
    (ha : w.gateway.engine.archives[path]? = some a) :
    ArchiveOpened w path config a (openContainer path config w) := by
  obtain ⟨events, hopen⟩ := openContainer_found config hcalm ha
  rw [hopen]
  have hlength : ∀ link, ((a.handled (w.gateway.engine.issued + 1)).map fun x =>
      x.1.loaded x.2 (some link) config).length = a.packages.length := by
    intro link
    rw [List.length_map, a.length_handled]
  refine ⟨rfl, ?_, ?_, ?_, ?_, ?_, ?_, ?_, ?_, ?_, rfl⟩
  · exact Pool.get?_add_eq_some.mpr (.inl ⟨rfl, rfl⟩)
  · intro i d hd
    obtain ⟨hi, -⟩ := List.getElem?_eq_some_iff.mp hd
    show (w.packages.addAll _).2.get? _ = _
    rw [Pool.get?_addAll_eq, hlength, if_pos ⟨Nat.le_add_right _ _, Nat.add_lt_add_left hi _⟩,
      Nat.add_sub_cancel_left, List.getElem?_map, a.getElem?_handled _ hd]
    rfl
  · show (_ ++ (Call.opening _ _ _).toArray).toList = _
    rw [Engine.calls_issueAll, a.handles_handled, Array.toList_append]
    rfl
  · exact Engine.live_issueAll_new (i := 0) (LiveObject.opened path _ _) (Nat.zero_lt_succ _)
  · exact fun i hi => Engine.live_opened hi
  · intro h hother
    refine Engine.live_issueAll_old _ fun i hi => hother i ?_
    rw [Engine.length_opened] at hi
    exact Nat.le_of_lt_succ hi
  · have hengine := Engine.issueAll_recordAll_eq (e := w.gateway.engine)
      (LiveObject.opened path (.issuedAfter w.gateway.engine.issued) a.packages.length)
      (Call.opening path (.issuedAfter w.gateway.engine.issued)
        ((a.handled (w.gateway.engine.issued + 1)).map Prod.snd))
    rw [Engine.length_opened, Nat.add_comm a.packages.length, ← Nat.add_assoc] at hengine
    exact hengine
  · intro id hid
    show (w.containers.add _).2.get? id = _
    rw [Pool.get?_add, if_neg hid]
  · intro k hk
    show (w.packages.addAll _).2.get? k = _
    rw [Pool.get?_addAll_eq, hlength, if_neg]
    omega

/-- **Opening an archive, from end to end.**  Take any host, its engine in any
state, and any path.  If the opening is refused, the error names the path and the
engine hears nothing; if no archive is there, the error names the path and all
that changes is that the call is recorded.  Otherwise the container and its
packages get the next handles in order, every package is attached to the
container and holds, slot by slot, what the description at its index says, the
calls are those of the opening and then the same twenty-nine for each package
about its own handle, and nothing is counted as misuse. -/
theorem container_opens (w : Host) (path : String) (config : Config) :
    (∀ n, w.gateway.faults.refusedOpens = n + 1 →
        openContainer path config w = (.error (.containerOpen path), { w with gateway :=
          { w.gateway with faults := { w.gateway.faults with refusedOpens := n } } }))
      ∧ (w.gateway.faults.refusedOpens = 0 → w.gateway.engine.archives[path]? = none →
        openContainer path config w = (.error (.containerOpen path), { w with gateway :=
          { w.gateway with engine := w.gateway.engine.record (.open path) } }))
      ∧ (∀ a, w.gateway.faults.refusedOpens = 0 → w.gateway.engine.archives[path]? = some a →
        ArchiveOpened w path config a (openContainer path config w))
      ∧ ∀ h, (Call.loading h).length = 29 ∧ ∀ c ∈ Call.loading h, c.handle? = some h := by
  have hfails : ∀ g, Gateway.openArchive path w.gateway = (none, g) →
      openContainer path config w = (.error (.containerOpen path), { w with gateway := g }) := by
    intro g hg
    unfold openContainer
    rw [bind_apply, through_apply, hg]
    rfl
  refine ⟨fun n hn => hfails _ (Gateway.openArchive_refused path hn),
    fun hcalm ha => hfails _ (Gateway.openArchive_absent hcalm ha),
    fun a hcalm ha => opened_of_archive config hcalm ha, fun h => ⟨rfl, fun c hc => ?_⟩⟩
  simp only [Call.loading, List.mem_append, List.mem_map, List.mem_cons, List.not_mem_nil,
    or_false] at hc
  rcases hc with ((⟨field, -, rfl⟩ | rfl | rfl) | ⟨name, -, rfl⟩) | rfl | rfl | rfl <;> rfl

/-- Two packages that differ in their titles. -/
def sampleAnthology : Archive :=
  let titled := fun title : String => { PackageDescription.empty with
    metadata := fun field => if field = .title then some title else none }
  { Archive.empty with version := some "2.0", packages := [titled "one", titled "two"] }

theorem container_opens_sample :
    let w := after [.register "book" sampleAnthology] fresh
    let x := openContainer "book" .default w
    ArchiveOpened w "book" .default sampleAnthology x
      ∧ (x.2.packages.get? 1).bind (fun p => p.metadata.title) = some "two"
      ∧ x.2.log.length = 3 + 2 * 29 :=
  ⟨(container_opens (after [.register "book" sampleAnthology] fresh) "book" .default).2.2.1 _ rfl
    Std.ExtTreeMap.getElem?_insert_self, by decide +kernel, by decide +kernel⟩

end Host

end EpubAccess
