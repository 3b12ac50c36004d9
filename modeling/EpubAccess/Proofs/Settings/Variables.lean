/-
  EpubAccess.Proofs.Settings.Variables
  ────────────────────────────────
  Which variables are accepted as settings.

    • `size?_cases` — a size is left at its default, set, or refused by name,
    • `ofVariables_outcome` — the settings are what the variables say, or the first
      size that cannot be used is blamed,
    • `ofVariables_congr` — no other variable is asked for,
    • `variables_accepted` — and the two sizes decide whether there are any.
-/
import Mathlib.Algebra.Group.Nat.Defs
import EpubAccess.Config
import EpubAccess.Proofs.Text.Blanks
import EpubAccess.Proofs.Text.Sizes

namespace EpubAccess.Config

/-! ## §1. A single size. -/

/-- A text that sets a size: blanks at its ends do not count, and the rest denotes
a positive number of 64 bits. -/
def Usable (raw : String) (n : Nat) : Prop :=
  ∃ core, Text.Trimmed raw.toList core ∧ Text.Size.Writes core n ∧ 0 < n ∧ n < 2 ^ 64

/-- The variable is not set, or it sets a size. -/
def Acceptable (lookup : String → Option String) (name : String) : Prop :=
  ∀ raw, lookup name = some raw → ∃ n, Usable raw n

/-- What an error says of a variable that is set to `raw`. -/
inductive Blames (name raw : String) : String → Prop
  | zero {core : List Char} (trimmed : Text.Trimmed raw.toList core)
      (writes : Text.Size.Writes core 0) : Blames name raw (name ++ " must be positive")
  | refused {core : List Char} {e : Text.Size.SizeError} (trimmed : Text.Trimmed raw.toList core)
      (refuses : Text.Size.Refuses core e) :
      Blames name raw (name ++ "=" ++ Text.Quoted.quote raw ++ ": " ++ e.message)

/-- What reading a size comes to. -/
inductive SizeResult (lookup : String → Option String) (name : String) :
    Except AccessError (Option UInt64) → Prop
  | unset (isNone : lookup name = none) : SizeResult lookup name (.ok none)
  | set {raw : String} {n : UInt64} (isSome : lookup name = some raw)
      (usable : Usable raw n.toNat) : SizeResult lookup name (.ok (some n))
  | refused {raw reason : String} (isSome : lookup name = some raw)
      (unusable : ∀ n, ¬ Usable raw n) (blames : Blames name raw reason) :
      SizeResult lookup name (.error (.config reason))

theorem usable_iff {raw : String} {n : Nat} :
    Usable raw n ↔ Text.Size.parse (Text.trim raw.toList) = .ok n ∧ 0 < n := by
  constructor
  · rintro ⟨core, htrim, hwrites, hpos, hlt⟩
    rw [Text.trim_eq_iff.mpr htrim]
    exact ⟨Text.Size.parse_eq_ok.mpr ⟨hwrites, hlt⟩, hpos⟩
  · rintro ⟨hparse, hpos⟩
    obtain ⟨hwrites, hlt⟩ := Text.Size.parse_eq_ok.mp hparse
    exact ⟨_, Text.trimmed_trim raw.toList, hwrites, hpos, hlt⟩

/-- **A size is left at its default, set, or refused by name.** -/
theorem size?_cases (lookup : String → Option String) (s : Setting) :
    SizeResult lookup s.variableName (size? lookup s) := by
  rw [size?]
  split
  · next hnone => exact .unset hnone
  · next raw hsome =>
    have htrim := Text.trimmed_trim raw.toList
    split
    · -- the text denotes zero
      next hparse =>
      refine .refused hsome ?_ (.zero htrim (Text.Size.parse_eq_ok.mp hparse).1)
      intro n hn
      obtain ⟨hn, hpos⟩ := usable_iff.mp hn
      rw [hparse] at hn
      obtain rfl : 0 = n := Except.ok.inj hn
      exact absurd hpos (Nat.lt_irrefl 0)
    · next n hne hparse =>
      have hpos : 0 < n := Nat.pos_of_ne_zero hne
      have hlt : n < UInt64.size := (Text.Size.parse_eq_ok.mp hparse).2
      refine .set hsome ?_
      rw [UInt64.toNat_ofNat_of_lt' hlt]
      exact usable_iff.mpr ⟨hparse, hpos⟩
    · next e hparse =>
      refine .refused hsome ?_ (.refused htrim (Text.Size.refuses_of_parse_eq_error hparse))
      intro n hn
      rw [(usable_iff.mp hn).1] at hparse
      cases hparse

section Results

variable {lookup : String → Option String} {name : String}

theorem SizeResult.acceptable {size : Option UInt64} (h : SizeResult lookup name (.ok size)) :
    Acceptable lookup name := by
  intro raw hraw
  cases h with
  | unset hnone =>
    rw [hnone] at hraw
    cases hraw
  | set hsome husable =>
    rw [hsome] at hraw
    cases hraw
    exact ⟨_, husable⟩

theorem SizeResult.not_acceptable {e : AccessError} (h : SizeResult lookup name (.error e)) :
    ¬ Acceptable lookup name := by
  intro hacceptable
  cases h with
  | refused hsome hunusable hblames =>
    obtain ⟨n, hn⟩ := hacceptable _ hsome
    exact hunusable n hn

end Results

/-! ## §2. All settings. -/

/-- A size is the given one where its variable is not set, and otherwise what the
variable says. -/
def SizeIs (lookup : String → Option String) (name : String) (standard n : UInt64) : Prop :=
  match lookup name with
  | none => n = standard
  | some raw => Usable raw n.toNat

/-- The settings are what the variables say, and the defaults where they say nothing. -/
structure Described (lookup : String → Option String) (c : Config) : Prop where
  bufferSizeHint : SizeIs lookup "EPUB3_BUFFER_SIZE" default.bufferSizeHint c.bufferSizeHint
  maxReadAll : SizeIs lookup "EPUB3_MAX_READ_ALL" default.maxReadAll c.maxReadAll
  rootUrl : c.rootUrl = (lookup "EPUB3_ROOT_URL").getD default.rootUrl
  rootUrlMediaOverlay :
    c.rootUrlMediaOverlay = (lookup "EPUB3_ROOT_URL_MO").getD default.rootUrlMediaOverlay
  logFilter : c.logFilter = (lookup "RUST_LOG").getD default.logFilter

section Settings

variable {lookup : String → Option String}

theorem SizeResult.sizeIs {name : String} {size : Option UInt64}
    (h : SizeResult lookup name (.ok size)) (standard : UInt64) :
    SizeIs lookup name standard (size.getD standard) := by
  rw [SizeIs]
  cases h with
  | unset hnone =>
    rw [hnone]
    rfl
  | set hsome husable =>
    rw [hsome]
    exact husable

theorem SizeIs.acceptable {name : String} {standard n : UInt64}
    (h : SizeIs lookup name standard n) : Acceptable lookup name := by
  intro raw hraw
  rw [SizeIs, hraw] at h
  exact ⟨n.toNat, h⟩

theorem Usable.unique {raw : String} {n m : Nat} (hn : Usable raw n) (hm : Usable raw m) :
    n = m := by
  have hparse := (usable_iff.mp hn).1
  rw [(usable_iff.mp hm).1] at hparse
  exact (Except.ok.inj hparse).symm

theorem SizeIs.unique {name : String} {standard n m : UInt64} (hn : SizeIs lookup name standard n)
    (hm : SizeIs lookup name standard m) : n = m := by
  rw [SizeIs] at hn hm
  cases hlookup : lookup name with
  | none =>
    rw [hlookup] at hn hm
    exact hn.trans hm.symm
  | some raw =>
    rw [hlookup] at hn hm
    exact UInt64.toNat_inj.mp (hn.unique hm)

/-- No two settings are described by the same variables. -/
theorem Described.unique {c d : Config} (hc : Described lookup c) (hd : Described lookup d) :
    c = d := by
  have hbuffer := hc.bufferSizeHint.unique hd.bufferSizeHint
  have hcap := hc.maxReadAll.unique hd.maxReadAll
  have hroot := hc.rootUrl.trans hd.rootUrl.symm
  have hoverlay := hc.rootUrlMediaOverlay.trans hd.rootUrlMediaOverlay.symm
  have hlog := hc.logFilter.trans hd.logFilter.symm
  cases c
  cases d
  simp only at hbuffer hcap hroot hoverlay hlog
  rw [hbuffer, hcap, hroot, hoverlay, hlog]

/-- What reading all settings comes to: the settings that the variables describe, or
the name of the first size that cannot be used. -/
inductive Outcome (lookup : String → Option String) : Except AccessError Config → Prop
  | described {c : Config} (settings : Described lookup c) : Outcome lookup (.ok c)
  | bufferSize {raw reason : String} (isSome : lookup "EPUB3_BUFFER_SIZE" = some raw)
      (unacceptable : ¬ Acceptable lookup "EPUB3_BUFFER_SIZE")
      (blames : Blames "EPUB3_BUFFER_SIZE" raw reason) : Outcome lookup (.error (.config reason))
  | readCap {raw reason : String} (acceptable : Acceptable lookup "EPUB3_BUFFER_SIZE")
      (isSome : lookup "EPUB3_MAX_READ_ALL" = some raw)
      (unacceptable : ¬ Acceptable lookup "EPUB3_MAX_READ_ALL")
      (blames : Blames "EPUB3_MAX_READ_ALL" raw reason) : Outcome lookup (.error (.config reason))

/-- **Settings are described, or a size is blamed**, the buffer size first. -/
theorem ofVariables_outcome (lookup : String → Option String) :
    Outcome lookup (ofVariables lookup) := by
  have hfirst : SizeResult lookup "EPUB3_BUFFER_SIZE" _ := size?_cases lookup .bufferSizeHint
  have hsecond : SizeResult lookup "EPUB3_MAX_READ_ALL" _ := size?_cases lookup .maxReadAll
  rw [ofVariables]
  cases hb : size? lookup .bufferSizeHint with
  | error e =>
    rw [hb] at hfirst
    have hbad := hfirst.not_acceptable
    cases hfirst with
    | refused hsome _ hblames => exact .bufferSize hsome hbad hblames
  | ok buffer =>
    rw [hb] at hfirst
    cases hm : size? lookup .maxReadAll with
    | error e =>
      rw [hm] at hsecond
      have hbad := hsecond.not_acceptable
      cases hsecond with
      | refused hsome _ hblames => exact .readCap hfirst.acceptable hsome hbad hblames
    | ok cap =>
      rw [hm] at hsecond
      exact .described ⟨hfirst.sizeIs _, hsecond.sizeIs _, rfl, rfl, rfl⟩

theorem Described.acceptable {c : Config} (h : Described lookup c) :
    Acceptable lookup "EPUB3_BUFFER_SIZE" ∧ Acceptable lookup "EPUB3_MAX_READ_ALL" :=
  ⟨h.bufferSizeHint.acceptable, h.maxReadAll.acceptable⟩

/-- **The settings are what the variables say.** -/
theorem ofVariables_eq_ok {c : Config} : ofVariables lookup = .ok c ↔ Described lookup c := by
  have houtcome := ofVariables_outcome lookup
  generalize ofVariables lookup = r at houtcome ⊢
  constructor
  · rintro rfl
    cases houtcome with
    | described hd => exact hd
  · intro h
    cases houtcome with
    | described hd => rw [h.unique hd]
    | bufferSize _ hbad _ => exact absurd h.acceptable.1 hbad
    | readCap _ _ hbad _ => exact absurd h.acceptable.2 hbad

/-- A buffer size that cannot be used is blamed, whatever the other size is. -/
theorem bufferSize_blamed (h : ¬ Acceptable lookup "EPUB3_BUFFER_SIZE") :
    ∃ raw reason, lookup "EPUB3_BUFFER_SIZE" = some raw ∧ Blames "EPUB3_BUFFER_SIZE" raw reason ∧
      ofVariables lookup = .error (.config reason) := by
  have houtcome := ofVariables_outcome lookup
  generalize ofVariables lookup = r at houtcome ⊢
  cases houtcome with
  | described hd => exact absurd hd.acceptable.1 h
  | bufferSize hsome _ hblames => exact ⟨_, _, hsome, hblames, rfl⟩
  | readCap hgood _ _ _ => exact absurd hgood h

/-- The read cap is blamed where the buffer size can be used. -/
theorem readCap_blamed (hbuffer : Acceptable lookup "EPUB3_BUFFER_SIZE")
    (h : ¬ Acceptable lookup "EPUB3_MAX_READ_ALL") :
    ∃ raw reason, lookup "EPUB3_MAX_READ_ALL" = some raw ∧
      Blames "EPUB3_MAX_READ_ALL" raw reason ∧
      ofVariables lookup = .error (.config reason) := by
  have houtcome := ofVariables_outcome lookup
  generalize ofVariables lookup = r at houtcome ⊢
  cases houtcome with
  | described hd => exact absurd hd.acceptable.2 h
  | bufferSize _ hbad _ => exact absurd hbuffer hbad
  | readCap _ hsome _ hblames => exact ⟨_, _, hsome, hblames, rfl⟩

/-- Settings come of acceptable sizes, and acceptable sizes of settings. -/
theorem exists_ofVariables : (∃ c, ofVariables lookup = .ok c) ↔
    Acceptable lookup "EPUB3_BUFFER_SIZE" ∧ Acceptable lookup "EPUB3_MAX_READ_ALL" := by
  constructor
  · rintro ⟨c, hc⟩
    exact (ofVariables_eq_ok.mp hc).acceptable
  · rintro ⟨hbuffer, hcap⟩
    have houtcome := ofVariables_outcome lookup
    generalize ofVariables lookup = r at houtcome ⊢
    cases houtcome with
    | described => exact ⟨_, rfl⟩
    | bufferSize _ hbad _ => exact absurd hbuffer hbad
    | readCap _ _ hbad _ => exact absurd hcap hbad

theorem size?_congr {other : String → Option String} {s : Setting}
    (h : other s.variableName = lookup s.variableName) : size? other s = size? lookup s := by
  rw [size?, h, size?]

/-- **No other variable is asked for.** -/
theorem ofVariables_congr {other : String → Option String}
    (h : ∀ s : Setting, other s.variableName = lookup s.variableName) :
    ofVariables other = ofVariables lookup := by
  simp only [ofVariables, size?_congr (h _), h]

end Settings

/-! ## §3. Accepted variables. -/

/-- **Exactly the positive sizes are accepted.** The settings are what the variables
say, and there are any exactly if each of the two sizes is not set or set to a
positive number of 64 bits, blanks around it not counted. Otherwise the error
names the buffer size if that one cannot be used, and the read cap if it can.
Nothing but the five variables counts. -/
theorem variables_accepted (lookup : String → Option String) :
    (∀ c, ofVariables lookup = .ok c ↔ Described lookup c) ∧
      ((∃ c, ofVariables lookup = .ok c) ↔
        Acceptable lookup "EPUB3_BUFFER_SIZE" ∧ Acceptable lookup "EPUB3_MAX_READ_ALL") ∧
      (¬ Acceptable lookup "EPUB3_BUFFER_SIZE" →
        ∃ raw reason, lookup "EPUB3_BUFFER_SIZE" = some raw ∧
          Blames "EPUB3_BUFFER_SIZE" raw reason ∧
          ofVariables lookup = .error (.config reason)) ∧
      (Acceptable lookup "EPUB3_BUFFER_SIZE" → ¬ Acceptable lookup "EPUB3_MAX_READ_ALL" →
        ∃ raw reason, lookup "EPUB3_MAX_READ_ALL" = some raw ∧
          Blames "EPUB3_MAX_READ_ALL" raw reason ∧
          ofVariables lookup = .error (.config reason)) ∧
      ∀ other : String → Option String,
        (∀ name ∈ ["EPUB3_BUFFER_SIZE", "EPUB3_MAX_READ_ALL", "EPUB3_ROOT_URL",
          "EPUB3_ROOT_URL_MO", "RUST_LOG"], other name = lookup name) →
        ofVariables other = ofVariables lookup := by
  refine ⟨fun c => ofVariables_eq_ok, exists_ofVariables, bufferSize_blamed, readCap_blamed, ?_⟩
  intro other hother
  apply ofVariables_congr
  intro s
  apply hother
  cases s <;> simp [Setting.variableName]

/-- A buffer size written with blanks, a sign and zeros, and a read cap that is one
too large. -/
def roomyVariables (name : String) : Option String :=
  if name = "EPUB3_BUFFER_SIZE" then some " +0042\n"
  else if name = "EPUB3_MAX_READ_ALL" then some "18446744073709551616"
  else none

theorem variables_accepted_sample :
    (Acceptable roomyVariables "EPUB3_BUFFER_SIZE" ∧
        ¬ Acceptable roomyVariables "EPUB3_MAX_READ_ALL") ∧
      ∃ raw reason, roomyVariables "EPUB3_MAX_READ_ALL" = some raw ∧
        Blames "EPUB3_MAX_READ_ALL" raw reason ∧
        ofVariables roomyVariables = .error (.config reason) := by
  have hbuffer : Acceptable roomyVariables "EPUB3_BUFFER_SIZE" := by
    intro raw hraw
    obtain rfl : " +0042\n" = raw := Option.some.inj hraw
    exact ⟨42, usable_iff.mpr ⟨rfl, by decide⟩⟩
  have hcap : ¬ Acceptable roomyVariables "EPUB3_MAX_READ_ALL" := by
    intro h
    obtain ⟨n, hn⟩ := h "18446744073709551616" rfl
    cases (usable_iff.mp hn).1
  exact ⟨⟨hbuffer, hcap⟩, (variables_accepted roomyVariables).2.2.2.1 hbuffer hcap⟩

end EpubAccess.Config
