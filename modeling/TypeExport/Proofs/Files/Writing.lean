import TypeExport.Files.Tree
import TypeExport.Proofs.Outcome

/-!
# Written files

Writing to a file makes the folders around it that are missing, opens the file and then stores the
text.  Until the file is open, every file is as it was.  From then on only that file is another one:
it is empty first, and at last it has the whole text, or the part of it that could be stored.

* `FileTree.SameTexts` — two trees have the same files with the same texts.
* `FileTree.WrittenAt` — one tree is the other with a text written where a path leads to.
* `FileTree.stored` — what is left of a text in a file that was opened for it.
* `FileTree.Change.on_bind` — one change after the other.
* `FileTree.keepsFiles_makeFolders` — folders are made without touching files.
* `FileTree.locate_of_isFolder` — a path leads to the same place when no folder is lost.
* `FileTree.on_openWithFolders`, `FileTree.on_store` — what the two steps of a write do.
* `FileTree.writeWithFolders_of_opens`, `FileTree.writeWithFolders_of_not_opens` — what a write
  does, whether or not it succeeds.
-/

namespace TypeExport.FileTree

variable {tree later : FileTree}

/-- The files of two trees are the same, with the same texts. -/
def SameTexts (tree later : FileTree) : Prop :=
  ∀ location, later.file? location = tree.file? location

/-- The later tree has a text where a path leads to, and all other files are those of the earlier
one. -/
def WrittenAt (tree later : FileTree) (path : Path) (text : String) : Prop :=
  ∃ location, later.locate path = .ok location ∧ later.file? location = some text ∧
    ∀ other, other ≠ location → later.file? other = tree.file? other

/-- What takes the place of surrogates is the same for every text. -/
@[simp]
theorem standIn_withText (location : Location) (text : String) :
    (tree.withText location text).standIn = tree.standIn := rfl

/-- There is as much room for a text after another one was put in place. -/
@[simp]
theorem taken_withText (location : Location) (old text : String) :
    (tree.withText location old).taken text = tree.taken text := rfl

/-- What is left of a text in a file that was opened for it. -/
def stored (tree : FileTree) (text : String) : String :=
  if Text.isEncodable tree.standIn text then tree.taken text else ""

/-- The file of a path can be opened, once the folders around it are there. -/
def Opens (tree : FileTree) (path : Path) : Prop :=
  ∃ location later, (openWithFolders path).on tree = (.ok location, later)

/-- Nothing is stored of a text with surrogates, and such a text is not empty. -/
theorem stored_eq_self_iff {text : String} :
    tree.stored text = text ↔
      Text.isEncodable tree.standIn text = true ∧ tree.taken text = text := by
  unfold stored
  split
  · next hencodable => rw [and_iff_right hencodable]
  · next hencodable =>
    refine iff_of_false ?_ fun h => hencodable h.1
    rintro rfl
    exact hencodable rfl

/-- What is stored of a text is a beginning of it. -/
theorem stored_isPrefix (text : String) : (tree.stored text).toList <+: text.toList := by
  unfold stored taken
  split
  · cases tree.room? with
    | none => exact List.prefix_rfl
    | some room =>
      rw [String.toList_ofList]
      exact List.take_prefix room text.toList
  · exact List.nil_prefix

/-! ### One file -/

/-- A file that is set has the new text, and the others have theirs. -/
theorem lookup_setFile (location : Location) (text : String) (files : List (Location × String))
    (other : Location) :
    (setFile location text files).lookup other
      = if other = location then some text else files.lookup other := by
  induction files with
  | nil =>
    by_cases h : other = location
    · rw [if_pos h, h]
      simp [setFile]
    · rw [if_neg h]
      simp [setFile, List.lookup_cons, beq_eq_false_iff_ne.mpr h]
  | cons file files ih =>
    obtain ⟨place, old⟩ := file
    unfold setFile
    -- The file that is written is either this one, whose text is exchanged, or a later one.
    split
    · next hplace =>
      subst hplace
      rw [List.lookup_cons, List.lookup_cons]
      by_cases h : other = place
      · rw [if_pos h, beq_iff_eq.mpr h]
      · rw [if_neg h, beq_eq_false_iff_ne.mpr h]
    · next hplace =>
      rw [List.lookup_cons, List.lookup_cons, ih]
      by_cases h : other = place
      · -- The place that is asked for comes first, and it is not the one that is written.
        have hne : ¬ other = location := fun heq => hplace (h.symm.trans heq)
        rw [beq_iff_eq.mpr h]
        exact (if_neg hne).symm
      · rw [beq_eq_false_iff_ne.mpr h]

/-- The places of files stay places of files. -/
theorem map_fst_subset_setFile (location : Location) (text : String)
    (files : List (Location × String)) :
    files.map Prod.fst ⊆ (setFile location text files).map Prod.fst := by
  induction files with
  | nil => exact List.nil_subset _
  | cons file files ih =>
    obtain ⟨place, old⟩ := file
    unfold setFile
    split
    · next hplace =>
      subst hplace
      exact List.Subset.refl _
    · exact List.cons_subset_cons place ih

/-- A text takes the place of one that was put into the same file before. -/
theorem setFile_setFile (location : Location) (old text : String)
    (files : List (Location × String)) :
    setFile location text (setFile location old files) = setFile location text files := by
  induction files with
  | nil => simp [setFile]
  | cons file files ih =>
    obtain ⟨place, other⟩ := file
    by_cases h : place = location
    · simp [setFile, h]
    · simp [setFile, h, ih]

/-! ### Folders -/

/-- Nothing but the folders of two trees may differ. -/
def SameButFolders (tree later : FileTree) : Prop :=
  ∃ folders, later = { tree with folders }

/-- Making a folder changes no file. -/
theorem sameButFolders_of_makeFolder {path : Path} (h : tree.makeFolder path = .ok later) :
    tree.SameButFolders later := by
  unfold makeFolder at h
  obtain ⟨location, -, h⟩ := Except.bind_eq_ok_iff.mp h
  split at h
  · cases h
  · exact ⟨_, (Except.ok.inj h).symm⟩

/-- Whatever comes of the change, nothing but the folders of the tree may be others. -/
def Change.KeepsFiles {α : Type} (change : Change α) : Prop :=
  ∀ tree : FileTree, tree.SameButFolders (change.on tree).2

/-- A change starts from the tree that the change before it has left, unless that one stopped. -/
theorem Change.on_bind {α β : Type} (change : Change α) (next : α → Change β) (tree : FileTree) :
    (change >>= next).on tree =
      match change.on tree with
      | (.ok value, later) => (next value).on later
      | (.error problem, later) => (.error problem, later) := by
  show Id.run ((change >>= next) tree) = _
  unfold Change.on
  simp only [bind, ExceptT.bind, ExceptT.mk, StateT.bind, ExceptT.run, StateT.run, Id.run]
  obtain ⟨outcome, later⟩ := change tree
  cases outcome <;> rfl

/-- A change may look at the tree that it starts from. -/
theorem Change.on_get {α : Type} (next : FileTree → Change α) (tree : FileTree) :
    (get >>= next).on tree = (next tree).on tree := rfl

/-- Changes that keep the files do so one after the other. -/
theorem Change.KeepsFiles.bind {α β : Type} {change : Change α} {next : α → Change β}
    (h : change.KeepsFiles) (hnext : ∀ value, (next value).KeepsFiles) :
    (change >>= next).KeepsFiles := by
  intro tree
  have hfirst := h tree
  rw [Change.on_bind]
  generalize change.on tree = first at hfirst
  obtain ⟨outcome, later⟩ := first
  -- A failure ends the change; after a success, the next change starts from the same files.
  cases outcome with
  | error obstacle => exact hfirst
  | ok value =>
    obtain ⟨folders, rfl⟩ := hfirst
    obtain ⟨folders', hsecond⟩ := hnext value { tree with folders }
    exact ⟨folders', hsecond⟩

/-- A folder that is ensured keeps the files. -/
theorem keepsFiles_ensureFolder (path : Path) : (ensureFolder path).KeepsFiles := by
  intro tree
  unfold ensureFolder
  rw [Change.on_get]
  split
  · next made hmade => exact sameButFolders_of_makeFolder hmade
  · split <;> exact ⟨tree.folders, rfl⟩

/-- Folders that are made above a path keep the files. -/
theorem keepsFiles_makeFoldersWithin (fuel : Nat) (path : Path) :
    (makeFoldersWithin fuel path).KeepsFiles := by
  -- The induction is on the folders around the path: they are made before the folder itself.
  induction fuel generalizing path with
  | zero => exact keepsFiles_ensureFolder path
  | succ fuel ih =>
    intro tree
    unfold makeFoldersWithin
    rw [Change.on_get]
    split
    · exact (ih path.parent).bind (fun _ => keepsFiles_ensureFolder path) tree
    · exact keepsFiles_ensureFolder path tree

/-- **Folders are made** without touching files, all of them or some. -/
theorem keepsFiles_makeFolders (path : Path) : (makeFolders path).KeepsFiles :=
  keepsFiles_makeFoldersWithin path.steps.length path

/-! ### Places -/

/-- A path leads to the same place in a tree that has all the folders. -/
theorem locate_of_isFolder {path : Path} {location : Location}
    (hfolders : ∀ place, tree.isFolder place = true → later.isFolder place = true)
    (h : tree.locate path = .ok location) : later.locate path = .ok location := by
  unfold locate at h ⊢
  generalize (if path.isRelative then [] else Location.outermost) = start at h ⊢
  generalize path.steps = names at h ⊢
  -- The induction is on the steps: each leaves a folder, and goes to the same place.
  induction names generalizing start with
  | nil => exact h
  | cons name names ih =>
    rw [List.foldlM_cons, Except.bind_eq_ok_iff] at h ⊢
    obtain ⟨next, hnext, h⟩ := h
    refine ⟨next, ?_, ih next h⟩
    unfold step at hnext ⊢
    by_cases hfolder : tree.isFolder start = true
    · rw [if_pos hfolder] at hnext
      rw [if_pos (hfolders start hfolder)]
      exact hnext
    · -- Nothing leads on from a place that is no folder.
      rw [if_neg hfolder] at hnext
      split at hnext <;> cases hnext

/-- Folders stay folders when a text is put into a file. -/
theorem isFolder_withText {location place : Location} {text : String}
    (h : tree.isFolder place = true) : (tree.withText location text).isFolder place = true := by
  simp only [isFolder, withText, Bool.or_eq_true] at h ⊢
  refine h.imp_right fun haround => ?_
  obtain ⟨file, hfile, hinside⟩ := List.any_eq_true.mp haround
  obtain ⟨kept, hkept, hplace⟩ := List.mem_map.mp
    (map_fst_subset_setFile location text tree.files (List.mem_map_of_mem hfile))
  refine List.any_eq_true.mpr ⟨kept, hkept, ?_⟩
  rw [hplace]
  exact hinside

/-! ### Texts in files -/

/-- Only one file has another text. -/
theorem file?_withText (location : Location) (text : String) (other : Location) :
    (tree.withText location text).file? other
      = if other = location then some text else tree.file? other :=
  lookup_setFile location text tree.files other

/-- A path still leads to the file whose text is put in place. -/
theorem locate_withText {path : Path} {location : Location} (text : String)
    (h : tree.locate path = .ok location) :
    (tree.withText location text).locate path = .ok location :=
  locate_of_isFolder (fun _ => isFolder_withText) h

/-- A text is written where a path leads to. -/
theorem writtenAt_withText (tree : FileTree) {path : Path} {location : Location} (text : String)
    (h : tree.locate path = .ok location) :
    tree.WrittenAt (tree.withText location text) path text := by
  refine ⟨location, locate_withText text h, ?_, fun other hother => ?_⟩
  · rw [file?_withText, if_pos rfl]
  · rw [file?_withText, if_neg hother]

/-- The text that was put in place last is the one that counts. -/
theorem withText_withText (location : Location) (old text : String) :
    (tree.withText location old).withText location text = tree.withText location text := by
  unfold withText
  rw [setFile_setFile]

/-! ### The steps of a write -/

/-- A file is opened where a path leads to, unless there is a problem with the path. -/
theorem on_openFile (path : Path) (tree : FileTree) :
    (∃ location, tree.locate path = .ok location ∧
      (openFile path).on tree = (.ok location, tree.withText location "")) ∨
    ∃ problem, (openFile path).on tree = (.error (.problem problem path), tree) := by
  unfold openFile
  rw [Change.on_get]
  cases hlocate : tree.locate path with
  | error problem => exact .inr ⟨problem, rfl⟩
  | ok location =>
    dsimp only
    split
    · exact .inr ⟨.isFolder, rfl⟩
    · exact .inl ⟨location, rfl, rfl⟩

/-- **Opening** a file leaves it empty, or all files are as they were. -/
theorem on_openWithFolders (path : Path) (tree : FileTree) :
    (∃ location around, tree.SameButFolders around ∧ around.locate path = .ok location ∧
      (openWithFolders path).on tree = (.ok location, around.withText location "")) ∨
    ∃ obstacle later, tree.SameButFolders later ∧
      (openWithFolders path).on tree = (.error obstacle, later) := by
  -- Until the file is opened, only folders are made, also where making them fails.
  have hfolders := keepsFiles_makeFolders path.parent tree
  unfold openWithFolders
  rw [Change.on_bind]
  generalize (makeFolders path.parent).on tree = made at hfolders
  obtain ⟨outcome, around⟩ := made
  cases outcome with
  | error obstacle => exact .inr ⟨obstacle, around, hfolders, rfl⟩
  | ok =>
    obtain ⟨location, hlocate, hopen⟩ | ⟨problem, hopen⟩ := on_openFile path around
    · exact .inl ⟨location, around, hfolders, hlocate, hopen⟩
    · exact .inr ⟨_, around, hfolders, hopen⟩

/-- A text with surrogates is turned away; of another one as much is stored as there is room for. -/
theorem on_store (path : Path) (location : Location) (text : String) (tree : FileTree) :
    (store path location text).on tree =
      if Text.isEncodable tree.standIn text then
        (if tree.taken text = text then .ok () else .error (.problem .noRoom path),
          tree.withText location (tree.taken text))
      else (.error .notEncodable, tree) := by
  unfold store
  rw [Change.on_get]
  split
  · split <;> rfl
  · rfl

/-- **Storing** a text in a file that was just opened leaves there what can be stored of it, and
succeeds if that is all. -/
theorem on_store_opened (path : Path) (location : Location) (text : String) (tree : FileTree) :
    ∃ outcome, (store path location text).on (tree.withText location "")
        = (outcome, tree.withText location (tree.stored text)) ∧
      (outcome = .ok () ↔ tree.stored text = text) := by
  rw [stored_eq_self_iff, on_store, withText_withText, standIn_withText, taken_withText]
  unfold stored
  split
  · next hencodable =>
    rw [and_iff_right hencodable]
    refine ⟨_, rfl, ?_⟩
    split
    · next hall => exact iff_of_true rfl hall
    · next hpart => exact iff_of_false nofun hpart
  · next hencodable => exact ⟨_, rfl, iff_of_false nofun fun h => hencodable h.1⟩

/-! ### Writing -/

/-- **Writing** to a file that can be opened leaves what can be stored of the text in it, and
changes no other file.  It succeeds if that is the whole text. -/
theorem writeWithFolders_of_opens {path : Path} (h : tree.Opens path) (text : String) :
    ∃ outcome later, (writeWithFolders path text).on tree = (outcome, later) ∧
      tree.WrittenAt later path (tree.stored text) ∧
      (outcome = .ok () ↔ tree.stored text = text) := by
  obtain ⟨place, opened, hopened⟩ := h
  -- The text is stored in the tree that opening left behind, folders and all.
  obtain ⟨location, around, ⟨folders, rfl⟩, hlocate, hopen⟩ | ⟨obstacle, later, -, hfailed⟩ :=
    on_openWithFolders path tree
  · obtain ⟨outcome, hstore, hall⟩ := on_store_opened path location text { tree with folders }
    have hwritten : tree.WrittenAt _ path (tree.stored text) :=
      writtenAt_withText { tree with folders } (tree.stored text) hlocate
    refine ⟨outcome, _, ?_, hwritten, hall⟩
    unfold writeWithFolders
    rw [Change.on_bind, hopen]
    exact hstore
  · rw [hopened] at hfailed
    cases hfailed

/-- Writing to a file that cannot be opened fails, and changes no file. -/
theorem writeWithFolders_of_not_opens {path : Path} (h : ¬ tree.Opens path) (text : String) :
    ∃ obstacle later, (writeWithFolders path text).on tree = (.error obstacle, later) ∧
      tree.SameTexts later := by
  obtain ⟨location, around, -, -, hopen⟩ | ⟨obstacle, later, ⟨folders, rfl⟩, hfailed⟩ :=
    on_openWithFolders path tree
  · exact absurd ⟨location, _, hopen⟩ h
  · refine ⟨obstacle, { tree with folders }, ?_, fun _ => rfl⟩
    unfold writeWithFolders
    rw [Change.on_bind]
    simp only [hfailed]

end TypeExport.FileTree
