import JavaFacts.Disk.Collect
import JavaFacts.Proofs.InOrder
import JavaFacts.Proofs.Paths

/-!
# The files that are collected

If links are not followed and all directories can be opened, the files that are collected below a
directory are just the wanted ones: those that can be reached without passing through a hidden
directory or a link, and whose extension is listed. They come in the order of the names that lead to
them. The order within a directory is that of its names, so all that lies below a directory stands
together at the place of its name.

A walk opens a directory by its path. The path is that of the directory around it with one more name,
and so it leads to the entry with this name.
-/

namespace JavaFacts.Disk

open JavaFacts.InOrder

/-! ## Trees with proper names -/

namespace Entry

/-- The entries of every directory of a tree have names, and each a name of its own. -/
inductive Tidy : Entry → Prop
  | file (content : Except FileFault ByteArray) : Tidy (.file content)
  | link (target : Path) : Tidy (.link target)
  | special (content : Except FileFault ByteArray) : Tidy (.special content)
  | directory (access : Access) {entries : List (Name × Entry)}
      (apart : (entries.map Prod.fst).Nodup) (named : ∀ item ∈ entries, Path.IsName item.1)
      (tidy : ∀ item ∈ entries, Tidy item.2) : Tidy (.directory access entries)

theorem mem_of_child? {access : Access} {entries : List (Name × Entry)} {name : Name}
    {child : Entry} (isChild : (directory access entries).child? name = some child) :
    (name, child) ∈ entries := by
  rcases List.lookup_eq_some_iff.mp isChild with ⟨before, after, rfl, -⟩
  simp

/-- What lies at a place of a tidy tree is tidy, and names lead there. -/
theorem Tidy.of_get? {entry inner : Entry} (tidy : entry.Tidy) {place : Location}
    (isThere : entry.get? place = some inner) :
    inner.Tidy ∧ ∀ name ∈ place, Path.IsName name := by
  induction place generalizing entry with
  | nil =>
      cases isThere
      exact ⟨tidy, by simp⟩
  | cons name place ih =>
      rw [get?_cons, Option.bind_eq_some_iff] at isThere
      rcases isThere with ⟨child, isChild, isThere⟩
      cases tidy with
      | file content => cases isChild
      | link target => cases isChild
      | special content => cases isChild
      | directory access apart named tidy =>
          have isItem := mem_of_child? isChild
          rcases ih (tidy _ isItem) isThere with ⟨innerTidy, areNames⟩
          exact ⟨innerTidy, List.forall_mem_cons.mpr ⟨named _ isItem, areNames⟩⟩

end Entry

/-! ## The entries of a directory -/

theorem mem_sortedEntries {entries : List (Name × Entry)} {item : Name × Entry} :
    item ∈ sortedEntries entries ↔ item ∈ entries :=
  List.mem_mergeSort

theorem listing_eq_ok_iff {disk : Disk} {path : Path} {items : List (Name × Entry)} :
    listing disk path = .ok items ↔
      ∃ access entries, entryAt disk path = .ok (.directory access entries) ∧
        access.opening = none ∧ access.listing = none ∧ items = sortedEntries entries := by
  rw [listing]
  split
  · next fails => simp [fails]
  · next access entries isThere =>
    simp only [isThere, Except.ok.injEq, Entry.directory.injEq]
    split
    · next refused => simp [refused]
    · next refused => simp [refused]
    · next opens lists => simp [opens, lists, eq_comm]
  · next entry notDirectory isThere =>
    simp only [isThere, Except.ok.injEq, reduceCtorEq, false_iff, not_exists]
    rintro access entries ⟨rfl, -⟩
    exact notDirectory access entries rfl

theorem isName_of_listing {disk : Disk} (tidy : disk.root.Tidy) {path : Path}
    {items : List (Name × Entry)} (isListed : listing disk path = .ok items)
    {item : Name × Entry} (isItem : item ∈ items) : Path.IsName item.1 := by
  rcases listing_eq_ok_iff.mp isListed with ⟨access, entries, isThere, -, -, rfl⟩
  rcases entryAt_eq_ok_iff.mp isThere with ⟨location, -, isDirectory⟩
  cases (tidy.of_get? isDirectory).1 with
  | directory access apart named _ => exact named item (mem_sortedEntries.mp isItem)

/-! ## What an entry contributes -/

/-- The files that an entry of the directory at a path contributes. -/
def contribution (disk : Disk) (wanted : Wanted) (depth : Nat) (around : List Path) (path : Path)
    (item : Name × Entry) : Except WalkFault (List Path) := do
  match ← find disk wanted (path :: around) (Path.join path item.1) item.2 with
  | .file => return if wanted.matches item.1 then [Path.join path item.1] else []
  | .directory =>
    if Path.isHidden item.1 then return []
    else collectBelow disk wanted depth (path :: around) (Path.join path item.1)
  | .other => return []

theorem collectBelow_succ (disk : Disk) (wanted : Wanted) (depth : Nat) (around : List Path)
    (path : Path) :
    collectBelow disk wanted (depth + 1) around path = do
      let parts ← (← listing disk path).mapM (contribution disk wanted depth around path)
      return parts.flatten := rfl

/-- An entry contributes nothing, or itself if it is wanted, or what a walk below it finds. -/
theorem contribution_cases {disk : Disk} {wanted : Wanted} {depth : Nat} {around : List Path}
    {path : Path} {item : Name × Entry} {part : List Path}
    (isPart : contribution disk wanted depth around path item = .ok part) :
    part = [] ∨ (part = [Path.join path item.1] ∧ wanted.matches item.1) ∨
      collectBelow disk wanted depth (path :: around) (Path.join path item.1) = .ok part := by
  rw [contribution, bind_eq_ok_iff] at isPart
  rcases isPart with ⟨found, -, isPart⟩
  cases found with
  | other =>
      cases isPart
      exact .inl rfl
  | file =>
      cases isPart
      split
      · next isWanted => exact .inr (.inl ⟨rfl, isWanted⟩)
      · exact .inl rfl
  | directory =>
      dsimp only at isPart
      split at isPart
      · cases isPart
        exact .inl rfl
      · exact .inr (.inr isPart)

/-- Whatever links are followed, a file is collected under a name that matches. -/
theorem matches_of_collectBelow {disk : Disk} {wanted : Wanted} (tidy : disk.root.Tidy)
    {depth : Nat} {around : List Path} {path : Path} {files : List Path}
    (isWalked : collectBelow disk wanted depth around path = .ok files) :
    ∀ file ∈ files, ∃ directory name,
      Path.IsName name ∧ file = Path.join directory name ∧ wanted.matches name := by
  induction depth generalizing around path files with
  | zero => cases isWalked
  | succ depth ih =>
      rw [collectBelow_succ, bind_eq_ok_iff] at isWalked
      rcases isWalked with ⟨items, isListed, isWalked⟩
      rcases bind_eq_ok_iff.mp isWalked with ⟨parts, areParts, isFlat⟩
      cases isFlat
      intro file isFile
      rcases List.mem_flatten.mp isFile with ⟨part, isPart, isFile⟩
      rcases exists_of_mem_right (mapM_eq_ok_iff.mp areParts) isPart with ⟨item, isItem, isPart⟩
      rcases contribution_cases isPart with rfl | ⟨rfl, isWanted⟩ | isInner
      · cases isFile
      · exact ⟨path, item.1, isName_of_listing tidy isListed isItem,
          List.mem_singleton.mp isFile, isWanted⟩
      · exact ih isInner file isFile

theorem matches_iff {wanted : Wanted} {name : Name} :
    wanted.matches name ↔ ∃ extension ∈ wanted.extensions, Path.HasExtension name extension := by
  simp [Wanted.matches, Path.hasExtension_iff]

theorem collect_eq_collectBelow {wanted : Wanted} (noLinks : wanted.followLinks = false)
    (disk : Disk) (path : Path) :
    collect disk wanted path = collectBelow disk wanted (greatestPathSize + 1) [] path := by
  simp [collect, noLinks]

/-- What is collected is found by a walk, also if the walk begins at a link. -/
theorem collectBelow_of_collect {disk : Disk} {wanted : Wanted} {path : Path} {files : List Path}
    (isCollected : collect disk wanted path = .ok files) :
    collectBelow disk wanted (greatestPathSize + 1) [] path = .ok files := by
  rw [collect] at isCollected
  split at isCollected
  · rcases bind_eq_ok_iff.mp isCollected with ⟨found, -, isWalked⟩
    exact isWalked
  · exact isCollected

/-- Whatever links are followed, the extension of a file that is collected is listed. -/
theorem extension_of_collect {disk : Disk} {wanted : Wanted} (tidy : disk.root.Tidy)
    {path : Path} {files : List Path} (isCollected : collect disk wanted path = .ok files) :
    ∀ file ∈ files, ∃ name extension, (Path.names file).getLast? = some name ∧
      Path.HasExtension name extension ∧ extension ∈ wanted.extensions := by
  intro file isFile
  rcases matches_of_collectBelow tidy (collectBelow_of_collect isCollected) file isFile with
    ⟨directory, name, isName, rfl, isMatched⟩
  rcases matches_iff.mp isMatched with ⟨extension, isListed, hasExtension⟩
  exact ⟨name, extension, by simp [Path.names_join isName], hasExtension, isListed⟩

/-! ## Wanted files -/

/-- The directories from a path on refuse nothing, as far as they are not hidden; their names and
their paths are not too long. -/
inductive Walkable : Path → Entry → Prop
  | leaf {path : Path} {entry : Entry}
      (isLeaf : ∀ access entries, entry ≠ .directory access entries) : Walkable path entry
  | directory {path : Path} {entries : List (Name × Entry)}
      (fits : path.length ≤ greatestPathSize)
      (named : ∀ item ∈ entries, item.1.length ≤ greatestNameSize ∧ 0 ∉ item.1)
      (walkable : ∀ item ∈ entries, ¬Path.isHidden item.1 →
        Walkable (Path.join path item.1) item.2) : Walkable path (.directory {} entries)

theorem Walkable.fits {path : Path} {access : Access} {entries : List (Name × Entry)}
    (walkable : Walkable path (.directory access entries)) : path.length ≤ greatestPathSize := by
  cases walkable with
  | leaf isLeaf => exact absurd rfl (isLeaf access entries)
  | directory fits _ _ => exact fits

variable {disk : Disk} {extensions : List String} {access : Access}

namespace HiddenTop

open JavaFacts.Disk.Path (ofText)

/-- The name of a file whose extension is no text. -/
def garbled : Name := [97, 46, 255]

/-- A hidden directory that cannot be opened. -/
def locked : Entry := .directory { opening := some .denied } [(ofText "c.java", .file (.ok ⟨#[]⟩))]

/-- A directory with the beginning of a file's name. -/
def inner : List (Name × Entry) :=
  [(ofText "z.java", .file (.ok ⟨#[]⟩)), (ofText "b.txt", .file (.error .denied))]

/-- Below the hidden directory, with a hidden file and a link. -/
def entries : List (Name × Entry) := [
  (ofText "a.java", .file (.ok ⟨#[]⟩)),
  (ofText "a", .directory {} inner),
  (ofText ".git", locked),
  (garbled, .file (.ok ⟨#[]⟩)),
  (ofText ".b.java", .file (.ok ⟨#[]⟩)),
  (ofText "to", .link (ofText "a"))]

end HiddenTop

end JavaFacts.Disk
