import ImageRecipe.Files
import ImageRecipe.Proofs.Outcome
import ImageRecipe.Proofs.Text.Cutting

/-!
Writing a file. What a path leads to stands in a directory, so a file that is put there changes the
content of one place, and no path leads elsewhere than before.
-/
namespace ImageRecipe

namespace FileTree

variable {t next : FileTree} {s : Setting} {place other : Place} {path : String}
  {content : ByteArray}

theorem isDir_iff :
    t.isDir place = true ↔ place = [] ∨ (∃ dir ∈ t.dirs, place <+: dir) ∨
      ∃ file ∈ t.files, place <+: file.1 ∧ place ≠ file.1 := by
  simp only [isDir, Bool.or_eq_true, List.isEmpty_iff, List.any_eq_true, Bool.and_eq_true,
    List.isPrefixOf_iff_prefix, decide_eq_true_eq, or_assoc]

theorem isDir_of_prefix (below : t.isDir place = true) (above : other <+: place) :
    t.isDir other = true := by
  rw [isDir_iff] at below ⊢
  rcases below with rfl | ⟨dir, there, under⟩ | ⟨file, there, under, different⟩
  · exact .inl (List.prefix_nil.mp above)
  · exact .inr (.inl ⟨dir, there, above.trans under⟩)
  · refine .inr (.inr ⟨file, there, above.trans under, ?_⟩)
    rintro rfl
    exact different (under.eq_of_length_le above.length_le)

theorem ask_eq_ok_iff {access : Access} :
    s.ask access place = .ok () ↔ s.refusal? access place = none := by
  unfold Setting.ask
  cases s.refusal? access place <;> simp

theorem requireDir_eq_ok_iff : t.requireDir place = .ok () ↔ t.isDir place = true := by
  unfold requireDir
  cases t.isDir place with
  | true => simp
  | false => cases (t.file? place).isSome <;> simp

/-- A step starts in a directory and stays, goes up or goes on to the name. -/
theorem step_cases {name : String} {after : Place} (taken : t.step s place name = .ok after) :
    t.isDir place = true ∧ (after = place ∨ after = place.dropLast ∨ after = place ++ [name]) := by
  unfold step at taken
  obtain ⟨_, dir, moved⟩ := bind_eq_ok_iff.mp taken
  refine ⟨requireDir_eq_ok_iff.mp dir, ?_⟩
  split at moved
  · exact .inl (Except.ok.inj moved).symm
  · obtain ⟨_, _, moved⟩ := bind_eq_ok_iff.mp moved
    split at moved
    · exact .inl (Except.ok.inj moved).symm
    · split at moved
      · exact .inr (.inl (Except.ok.inj moved).symm)
      · split at moved
        · cases moved
        · exact .inr (.inr (Except.ok.inj moved).symm)

theorem step_grounded {name : String} {after : Place} (taken : t.step s place name = .ok after) :
    t.isDir after.dropLast = true := by
  obtain ⟨here, rfl | rfl | rfl⟩ := step_cases taken
  · exact isDir_of_prefix here (List.dropLast_prefix _)
  · exact isDir_of_prefix here ((List.dropLast_prefix _).trans (List.dropLast_prefix _))
  · rwa [List.dropLast_concat]

theorem resolve_eq_ok_iff :
    t.resolve path s = .ok place ↔
      '\x00' ∉ path.toList ∧ path ≠ "" ∧ path.utf8ByteSize < 4096 ∧
        (Text.pieces '/' path).foldlM (t.step s) (s.start path) = .ok place := by
  unfold resolve
  split
  · rename_i zero
    exact ⟨fun refused => (nomatch refused), fun fits => absurd zero fits.1⟩
  · split
    · rename_i empty
      exact ⟨fun refused => (nomatch refused), fun fits => absurd empty fits.2.1⟩
    · split
      · rename_i long
        exact ⟨fun refused => (nomatch refused), fun fits => absurd long (by omega)⟩
      · rename_i zero empty short
        exact ⟨fun walked => ⟨zero, empty, Nat.lt_of_not_le short, walked⟩, fun fits => fits.2.2.2⟩

theorem walk_concat {name : String} {front : List String} {start after : Place}
    (walked : (front ++ [name]).foldlM (t.step s) start = .ok after) :
    ∃ base, front.foldlM (t.step s) start = .ok base ∧ t.step s base name = .ok after := by
  rw [List.foldlM_append, bind_eq_ok_iff] at walked
  obtain ⟨base, before, last⟩ := walked
  rw [List.foldlM_cons, bind_eq_ok_iff] at last
  obtain ⟨_, taken, done⟩ := last
  cases done
  exact ⟨base, before, taken⟩

/-- Whatever a path leads to stands in a directory, since every path has a last step. -/
theorem resolve_grounded (leads : t.resolve path s = .ok place) :
    t.isDir place.dropLast = true := by
  obtain ⟨_, _, _, walked⟩ := resolve_eq_ok_iff.mp leads
  have filled : Text.pieces '/' path ≠ [] := by
    rw [Text.pieces, ne_eq, List.map_eq_nil_iff]
    exact List.splitOn_ne_nil '/' path.toList
  rw [← List.dropLast_append_getLast filled] at walked
  obtain ⟨_, _, taken⟩ := walk_concat walked
  exact step_grounded taken

/-- What can be written: a path leads there, it is no directory, and the setting lets it be. -/
structure Writable (t : FileTree) (s : Setting) (path : String) (place : Place) : Prop where
  leads : t.resolve path s = .ok place
  notDir : t.isDir place = false
  old : (t.file? place).isSome = true → s.refusal? .write place = none
  fresh : t.file? place = none → s.refusal? .create place = none

theorem writePlace_eq_ok_iff : t.writePlace path s = .ok place ↔ t.Writable s path place := by
  unfold writePlace
  rw [bind_eq_ok_iff]
  constructor
  · rintro ⟨found, leads, given⟩
    split at given
    · cases given
    · rename_i notDir
      obtain ⟨_, asked, same⟩ := bind_eq_ok_iff.mp given
      obtain rfl := Except.ok.inj same
      rw [ask_eq_ok_iff] at asked
      refine ⟨leads, by simpa using notDir, fun there => ?_, fun absent => ?_⟩
      · rwa [if_pos there] at asked
      · rwa [absent] at asked
  · rintro ⟨leads, notDir, old, fresh⟩
    refine ⟨place, leads, ?_⟩
    rw [notDir]
    refine bind_eq_ok_iff.mpr ⟨(), ask_eq_ok_iff.mpr ?_, rfl⟩
    cases there : t.file? place with
    | none => exact fresh there
    | some content => exact old (by rw [there]; rfl)

theorem Writable.unique (writable : t.Writable s path place)
    (otherWritable : t.Writable s path other) : place = other :=
  Except.ok.inj
    ((writePlace_eq_ok_iff.mpr writable).symm.trans (writePlace_eq_ok_iff.mpr otherWritable))

theorem not_writable {refusal : Refusal} (refused : t.writePlace path s = .error refusal) :
    ¬ t.Writable s path place := by
  intro writable
  cases refused.symm.trans (writePlace_eq_ok_iff.mpr writable)

/-- A name that is one step of a path, downwards. -/
structure Name (name : String) : Prop where
  filled : name ≠ ""
  notHere : name ≠ "."
  notAbove : name ≠ ".."
  single : '/' ∉ name.toList

theorem step_name {name : String} {after : Place} (isName : Name name)
    (taken : t.step s place name = .ok after) :
    t.isDir place = true ∧ after = place ++ [name] := by
  unfold step at taken
  simp only [isName.filled, isName.notHere, isName.notAbove, if_false] at taken
  obtain ⟨_, dir, moved⟩ := bind_eq_ok_iff.mp taken
  obtain ⟨_, _, moved⟩ := bind_eq_ok_iff.mp moved
  split at moved
  · cases moved
  · exact ⟨requireDir_eq_ok_iff.mp dir, (Except.ok.inj moved).symm⟩

theorem step_here (dir : t.isDir place = true) : t.step s place "" = .ok place := by
  simp [step, requireDir, dir, bind, Except.bind, pure, Except.pure]

/-- Where a directory is. None is named by the empty path, which stands for the working directory
in front of a name. -/
def Leads (t : FileTree) (s : Setting) (dir : String) (base : Place) : Prop :=
  (dir = "" ∧ base = s.workDir) ∨ t.resolve dir s = .ok base

theorem start_append {dir : String} (filled : dir ≠ "") (rest : String) :
    s.start (dir ++ rest) = s.start dir := by
  unfold Setting.start
  rw [String.toList_append]
  cases chars : dir.toList with
  | nil => exact absurd (String.toList_eq_nil_iff.mp chars) filled
  | cons c cs => rfl

theorem resolve_front {dir rest : String} {base : Place} (filled : dir ≠ "")
    (leads : t.resolve (dir ++ rest) s = .ok place)
    (walked : (Text.pieces '/' dir).foldlM (t.step s) (s.start dir) = .ok base) :
    t.resolve dir s = .ok base := by
  obtain ⟨zero, _, long, _⟩ := resolve_eq_ok_iff.mp leads
  rw [String.toList_append] at zero
  rw [String.utf8ByteSize_append] at long
  rw [resolve_eq_ok_iff]
  exact ⟨fun there => zero (List.mem_append_left _ there), filled, by omega, walked⟩

/-- The steps to a name in a directory. A slash at the end of the directory is one step in place. -/
theorem pieces_pathIn {dir name : String} (isName : Name name) (filled : dir ≠ "") :
    ∃ front rest, pathIn dir name = dir ++ rest ∧
      Text.pieces '/' (pathIn dir name) = front ++ [name] ∧
      (Text.pieces '/' dir = front ∨ Text.pieces '/' dir = front ++ [""]) := by
  have one : Text.pieces '/' name = [name] := Text.pieces_of_notMem isName.single
  by_cases slash : dir.toList.getLast? = some '/'
  · obtain ⟨chars, ending⟩ := List.getLast?_eq_some_iff.mp slash
    have split : dir = String.ofList chars ++ "/" := by
      rw [← String.toList_inj, String.toList_append, String.toList_ofList, ending]
      rfl
    have cut (rest : String) : Text.pieces '/' (dir ++ rest) =
        Text.pieces '/' (String.ofList chars) ++ Text.pieces '/' rest := by
      rw [split, Text.pieces_append rfl]
    have own := cut ""
    rw [String.append_empty] at own
    have same : pathIn dir name = dir ++ name := by simp [pathIn, slash]
    refine ⟨Text.pieces '/' (String.ofList chars), name, same, ?_, .inr own⟩
    rw [same, cut, one]
  · have same : pathIn dir name = dir ++ "/" ++ name := by simp [pathIn, filled, slash]
    refine ⟨Text.pieces '/' dir, "/" ++ name, by rw [same, String.append_assoc], ?_, .inl rfl⟩
    rw [same, Text.pieces_append rfl, one]

/-- A name in a directory is a place right below where the directory leads. -/
theorem resolve_pathIn {dir name : String} (isName : Name name)
    (leads : t.resolve (pathIn dir name) s = .ok place) :
    ∃ base, t.Leads s dir base ∧ t.isDir base = true ∧ place = base ++ [name] := by
  obtain ⟨_, _, _, walked⟩ := resolve_eq_ok_iff.mp leads
  by_cases empty : dir = ""
  · have same : pathIn dir name = name := by simp [pathIn, empty]
    have relative : s.start name = s.workDir :=
      if_neg fun slash => isName.single (List.mem_of_head? slash)
    rw [same, Text.pieces_of_notMem isName.single, relative, ← List.nil_append [name]] at walked
    obtain ⟨_, before, taken⟩ := walk_concat walked
    cases before
    obtain ⟨below, rfl⟩ := step_name isName taken
    exact ⟨s.workDir, .inl ⟨empty, rfl⟩, below, rfl⟩
  · obtain ⟨front, rest, same, cut, own⟩ := pieces_pathIn isName empty
    rw [cut, same, start_append empty] at walked
    rw [same] at leads
    obtain ⟨base, before, taken⟩ := walk_concat walked
    obtain ⟨below, rfl⟩ := step_name isName taken
    refine ⟨base, .inr (resolve_front empty leads ?_), below, rfl⟩
    rcases own with own | own
    · rw [own, before]
    · have stays : [""].foldlM (t.step s) base = .ok base := by
        rw [List.foldlM_cons, step_here below]
        rfl
      rw [own, List.foldlM_append, before]
      exact stays

example : (⟨[["srv", "out"]], []⟩ : FileTree).resolve (pathIn "../srv/./out/" "Dockerfile")
    { workDir := ["srv"] } = .ok ["srv", "out", "Dockerfile"] := by
  decide

/-- A tree that differs from another in the content of one place. -/
structure Overwrites (t next : FileTree) (place : Place) (content : ByteArray) : Prop where
  file : next.file? place = some content
  others : ∀ other, other ≠ place → next.file? other = t.file? other
  dirs : ∀ other, next.isDir other = t.isDir other
  paths : ∀ s path other, next.resolve path s = .ok other ↔ t.resolve path s = .ok other

theorem lookup_filter {files : List (Place × ByteArray)} (different : other ≠ place) :
    (files.filter (·.1 ≠ place)).lookup other = files.lookup other := by
  induction files with
  | nil => rfl
  | cons file files ih =>
    obtain ⟨key, content⟩ := file
    by_cases same : key = place
    · have absent : (other == key) = false := by
        rw [same]
        exact beq_false_of_ne different
      have dropped : ((key, content) :: files).filter (·.1 ≠ place) =
          files.filter (·.1 ≠ place) := by
        simp [same]
      rw [dropped, ih, List.lookup_cons, absent]
    · have kept : ((key, content) :: files).filter (·.1 ≠ place) =
          (key, content) :: files.filter (·.1 ≠ place) := by
        simp [same]
      rw [kept, List.lookup_cons, List.lookup_cons, ih]

theorem file?_put : (t.put place content).file? place = some content := by
  simp [file?, put]

theorem file?_put_of_ne (different : other ≠ place) :
    (t.put place content).file? other = t.file? other := by
  have absent : (other == place) = false := beq_false_of_ne different
  rw [file?, put, List.lookup_cons, absent]
  exact lookup_filter different

theorem prefix_dropLast (above : other <+: place) (different : other ≠ place) :
    other <+: place.dropLast := by
  have filled : place ≠ [] := by
    rintro rfl
    exact different (List.prefix_nil.mp above)
  rw [← List.dropLast_append_getLast filled] at above different
  rcases List.prefix_concat_iff.mp above with same | inside
  · exact absurd same different
  · exact inside

theorem isDir_put (grounded : t.isDir place.dropLast = true) :
    (t.put place content).isDir other = t.isDir other := by
  rw [Bool.eq_iff_iff]
  constructor
  · intro there
    rcases isDir_iff.mp there with rfl | listed | ⟨file, member, above, different⟩
    · rfl
    · exact isDir_iff.mpr (.inr (.inl listed))
    · rcases List.mem_cons.mp member with rfl | old
      · exact isDir_of_prefix grounded (prefix_dropLast above different)
      · have before := (List.mem_filter.mp old).1
        exact isDir_iff.mpr (.inr (.inr ⟨file, before, above, different⟩))
  · intro there
    rw [isDir_iff]
    rcases isDir_iff.mp there with rfl | listed | ⟨file, member, above, different⟩
    · exact .inl rfl
    · exact .inr (.inl listed)
    · refine .inr (.inr ?_)
      by_cases same : file.1 = place
      · -- the file that was there is replaced, and what was above it is above the new one
        exact ⟨(place, content), List.mem_cons_self, same ▸ above, same ▸ different⟩
      · have kept : file ∈ t.files.filter (·.1 ≠ place) :=
          List.mem_filter.mpr ⟨member, by simpa using same⟩
        exact ⟨file, .tail _ kept, above, different⟩

/-- Where paths lead is for the directories to say. -/
theorem resolve_of_dirs (same : ∀ place, next.isDir place = t.isDir place) :
    next.resolve path s = .ok place ↔ t.resolve path s = .ok place := by
  have dir (base : Place) (done : Unit) :
      next.requireDir base = .ok done ↔ t.requireDir base = .ok done := by
    cases done
    rw [requireDir_eq_ok_iff, requireDir_eq_ok_iff, same]
  have step (base : Place) (name : String) (after : Place) :
      next.step s base name = .ok after ↔ t.step s base name = .ok after := by
    unfold step
    simp only [bind_eq_ok_iff, dir]
  rw [resolve_eq_ok_iff, resolve_eq_ok_iff, foldlM_eq_ok_congr step]

theorem put_overwrites (leads : t.resolve path s = .ok place) (content : ByteArray) :
    t.Overwrites (t.put place content) place content where
  file := file?_put
  others := fun _ different => file?_put_of_ne different
  dirs := fun _ => isDir_put (resolve_grounded leads)
  paths := fun _ _ _ => resolve_of_dirs fun _ => isDir_put (resolve_grounded leads)

theorem fromUTF8?_toUTF8 (text : String) : String.fromUTF8? text.toUTF8 = some text := by
  have valid : text.toUTF8.IsValidUTF8 := text.isValidUTF8
  unfold String.fromUTF8?
  rw [dif_pos valid]
  rfl

theorem readText_put {text : String} (writable : t.Writable s path place)
    (readable : s.refusal? .read place = none) :
    (t.put place text.toUTF8).readText path s = .ok text := by
  have written := put_overwrites writable.leads text.toUTF8
  have leads := (written.paths s path place).mpr writable.leads
  have notDir := (written.dirs place).trans writable.notDir
  have asked := ask_eq_ok_iff.mpr readable
  unfold readText
  rw [leads]
  simp only [bind, Except.bind, notDir, written.file, asked, fromUTF8?_toUTF8]
  rfl

end FileTree

end ImageRecipe
