/-
  EpubAccess.Proofs.Libraries.Documents
  ────────────────────────────────
  A library comes back from its file.

    • `Table.parse?_render` — any table of texts is read back from its layout,
      whatever characters its texts hold,
    • `ofBytes?_toDocument` — a library is read back from its document
      without its containers and packages,
    • `read_write` — a file reads as it was last written,
    • `libraries_survive_files` — what was saved can be loaded, answers as the
      library that was saved, and is saved as the same bytes again.
-/
import EpubAccess.Host.Libraries
import EpubAccess.Proofs.Json.Values

namespace EpubAccess

/-! ## §1. Tables of texts. -/

namespace Json.Table

/-- The member of a table as it is read. -/
def memberOutline (m : String × String) : List Piece × Outline := (pieces m.1, .text (pieces m.2))

theorem run_line (done : List Token) (m : String × String) (rest : List Char) :
    Lexer.run ⟨done, .between⟩ (line m ++ rest)
      = Lexer.run ⟨.text (pieces m.2) :: .colon :: .text (pieces m.1) :: done, .between⟩ rest := by
  have hline : line m ++ rest
      = '\n' :: ' ' :: ' ' :: (quotedChars m.1 ++ ':' :: ' ' :: (quotedChars m.2 ++ rest)) := by
    simp [line]
  rw [hline]
  show Lexer.run ⟨done, .between⟩ (quotedChars m.1 ++ ':' :: ' ' :: (quotedChars m.2 ++ rest)) = _
  rw [run_quoted]
  show Lexer.run ⟨.colon :: .text (pieces m.1) :: done, .between⟩ (quotedChars m.2 ++ rest) = _
  rw [run_quoted]

theorem run_lines {members : List (String × String)} (hne : members ≠ []) (done : List Token) :
    Lexer.run ⟨done, .between⟩ (lines members ++ ['\n', '\x7d'])
      = Lexer.run ⟨(Outline.memberTokens (members.map memberOutline)).reverse ++ done, .between⟩
          [] := by
  induction members generalizing done with
  | nil => exact absurd rfl hne
  | cons m members ih =>
    cases members with
    | nil =>
      rw [lines, run_line]
      simp only [List.map_cons, List.map_nil, memberOutline, Outline.memberTokens, Outline.tokens]
      rfl
    | cons n members =>
      -- a comma, and the next line
      rw [lines, List.append_assoc, run_line, List.cons_append, Lexer.run_mark rfl,
        ih (by simp)]
      simp [memberOutline, Outline.memberTokens, Outline.tokens]

theorem outline?_render (members : List (String × String)) :
    outline? (render members).toList = some (.object (members.map memberOutline)) := by
  apply outline?_of_run
  cases members with
  | nil => rfl
  | cons m members =>
    -- the opening brace is behind, the closing one stands after the lines
    rw [render, String.toList_ofList, Lexer.run_mark rfl, run_lines (by simp)]
    · simp [Outline.tokens]
    · exact List.cons_ne_nil m members

theorem member?_memberOutline (m : String × String) : member? (memberOutline m) = some m := by
  simp [member?, memberOutline, text?_pieces]

/-- **A table is read back from its layout.** -/
theorem parse?_render (members : List (String × String)) :
    parse? (render members) = some members := by
  rw [parse?, outline?_render]
  show (members.map memberOutline).mapM member? = some members
  induction members with
  | nil => rfl
  | cons m members ih =>
    rw [List.map_cons, List.mapM_cons, member?_memberOutline, ih]
    rfl

end Json.Table

/-! ## §2. The library of a document. -/

namespace Library

/-- A library is made from its paths without containers and packages. -/
theorem ofPaths_paths (l : Library) : ofPaths l.paths = l.forgetObjects := by
  have hentries : (ofPaths l.paths).entries = l.forgetObjects.entries := by
    calc
      (ofPaths l.paths).entries
        = l.forgetObjects.entries.toList.foldl (fun m x => m.insert x.1 x.2) ∅ := by
        rw [ofPaths, paths, forgetObjects, Std.ExtTreeMap.toList_map, List.foldl_map,
          List.foldl_map]
      _ = Std.ExtTreeMap.ofList l.forgetObjects.entries.toList :=
        Std.ExtTreeMap.ofList_eq_foldl.symm
      _ = l.forgetObjects.entries := Json.ofList_toList _
  exact congrArg (Library.mk ∅) hentries

/-- **A library is read back from its document.** -/
theorem ofBytes?_toDocument (l : Library) :
    ofBytes? l.toDocument.toUTF8 = some l.forgetObjects := by
  have hvalid : l.toDocument.toByteArray.IsValidUTF8 := l.toDocument.isValidUTF8
  have htext : String.fromUTF8? l.toDocument.toUTF8 = some l.toDocument := by
    rw [String.fromUTF8?]
    exact dif_pos hvalid
  rw [ofBytes?, htext, Option.bind_some, ofDocument?, toDocument, Json.Table.parse?_render,
    Option.map_some, ofPaths_paths]

theorem paths_forgetObjects (l : Library) : l.forgetObjects.paths = l.paths := by
  rw [paths, forgetObjects, Std.ExtTreeMap.toList_map, List.map_map]
  rfl

/-- The second library knows the publications of the first one in the same
order and under the same paths, and none of their objects. -/
structure Restored (l m : Library) : Prop where
  uniqueIds : m.uniqueIds = l.uniqueIds
  size : m.size = l.size
  pathForUniqueId : ∀ id, m.pathForUniqueId id = l.pathForUniqueId id
  pathForPackageId : ∀ packageId, m.pathForPackageId packageId = l.pathForPackageId packageId
  noContainer : ∀ path, m.container? path = none
  noPackage : ∀ id, m.packageForUniqueId id = none

theorem restored_forgetObjects (l : Library) : Restored l l.forgetObjects where
  uniqueIds := Std.ExtTreeMap.keys_map
  size := Std.ExtTreeMap.size_map
  pathForUniqueId id := by
    rw [pathForUniqueId, forgetObjects, Std.ExtTreeMap.getElem?_map, Option.map_map]
    rfl
  pathForPackageId packageId := by
    rw [pathForPackageId, forgetObjects, Std.ExtTreeMap.toList_map, List.find?_map, Option.map_map]
    rfl
  noContainer path := Std.ExtTreeMap.getElem?_empty
  noPackage id := by
    rw [packageForUniqueId, forgetObjects, Std.ExtTreeMap.getElem?_map]
    cases l.entries[id]? <;> rfl

end Library

/-! ## §3. Files. -/

/-- **A file reads as it was last written.** -/
theorem Files.read_write {f f' : Files} {path : String} {bytes : ByteArray}
    (h : f.write path bytes = .ok f') : f'.read path = .ok bytes := by
  rw [Files.write] at h
  rw [Files.read]
  -- only a plain name can be written, and it is the one that is read
  cases hplace : place path with
  | error e => rw [hplace] at h; cases h
  | ok p =>
    rw [hplace] at h
    cases p with
    | directory | slashed | through => cases h
    | name s =>
      replace h : (if s.isTooLong then .error tooLong
        else .ok ⟨f.contents.insert s.path bytes⟩) = Except.ok f' := h
      split at h
      · cases h
      · obtain rfl := Except.ok.inj h
        simp only [bind, Except.bind, Std.ExtTreeMap.getElem?_insert_self]

namespace Host

/-- **Libraries survive their files.**  Where a library was saved, its file
holds its document; from such a file loading succeeds, and the library that
comes out knows the same publications, has no containers and no packages, and
is saved in the same way as the first one. -/
theorem libraries_survive_files (l : Library) :
    (∀ (w w' : Host) (file : String), saveLibrary l file w = (.ok (), w') →
      w'.files.read file = .ok l.toDocument.toUTF8) ∧
    ∃ m : Library, l.Restored m ∧
      (∀ (w : Host) (file : String), w.files.read file = .ok l.toDocument.toUTF8 →
        (loadLibrary file w).1 = .ok m) ∧
      ∀ file, saveLibrary m file = saveLibrary l file := by
  refine ⟨?_, l.forgetObjects, l.restored_forgetObjects, ?_, ?_⟩
  · intro w w' file h
    rw [saveLibrary, Stateful.get_bind_apply] at h
    cases hwrite : w.files.write file l.toDocument.toUTF8 with
    | error e => rw [hwrite] at h; cases h
    | ok files =>
      rw [hwrite] at h
      obtain rfl : { w with files } = w' := congrArg Prod.snd h
      exact Files.read_write hwrite
  · intro w file h
    rw [loadLibrary, Stateful.get_bind_apply, h]
    simp only [Library.ofBytes?_toDocument]
    rfl
  · intro file
    have hdocument : l.forgetObjects.toDocument = l.toDocument := by
      rw [Library.toDocument, Library.paths_forgetObjects, Library.toDocument]
    rw [saveLibrary, hdocument, saveLibrary]

/-- A library with an empty identifier and one with a quote, a backslash,
control characters and a letter outside ASCII. -/
def unusualLibrary : Library :=
  (Library.empty.enter "/a.epub" "" 1).enter "/\"b\".epub" "\\ \x00\n \u00e9" 2

theorem libraries_survive_files_sample :
    let saved := saveLibrary unusualLibrary "library.json" fresh
    saved.1 = .ok () ∧ ∃ m, unusualLibrary.Restored m ∧ m.size = 2 ∧
      (loadLibrary "library.json" saved.2).1 = .ok m := by
  intro saved
  have hsaved : saved.1 = .ok () := rfl
  obtain ⟨hread, m, hrestored, hload, -⟩ := libraries_survive_files unusualLibrary
  refine ⟨hsaved, m, hrestored, ?_, hload _ _ (hread fresh saved.2 _ (Prod.ext hsaved rfl))⟩
  rw [hrestored.size]
  decide +kernel

end Host

end EpubAccess
