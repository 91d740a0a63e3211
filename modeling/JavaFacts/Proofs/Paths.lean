import JavaFacts.Disk.Resolve

/-!
# Names on a path

A name in a directory is not empty and holds no slash. So the names of a path to a place below a
directory are those of the directory, followed by those that lead to the place, and the path tells
the place. What a path leads to depends only on where its first part leads and on the names after it.

The extension of a name is the text after its last dot, if something stands before that dot.
-/

namespace JavaFacts.Disk

open JavaFacts.Text

namespace Path

/-! ## Paths to places below a directory -/

/-- Bytes that can be the name of an entry of a directory. -/
structure IsName (name : Name) : Prop where
  notEmpty : name ≠ []
  noSlash : slash ∉ name

instance (name : Name) : Decidable (IsName name) :=
  decidable_of_iff (name ≠ [] ∧ slash ∉ name)
    ⟨fun both => ⟨both.1, both.2⟩, fun isName => ⟨isName.notEmpty, isName.noSlash⟩⟩

/-- A name that a directory looks up: it is neither that of the directory itself nor that of the
directory around it, and it is not too long. -/
structure IsProper (name : Name) : Prop extends IsName name where
  notSelf : name ≠ [dot]
  notAround : name ≠ [dot, dot]
  isShort : name.length ≤ greatestNameSize
  noZero : 0 ∉ name

instance (name : Name) : Decidable (IsProper name) :=
  decidable_of_iff (IsName name ∧ name ≠ [dot] ∧ name ≠ [dot, dot] ∧
      name.length ≤ greatestNameSize ∧ 0 ∉ name)
    ⟨fun all => ⟨all.1, all.2.1, all.2.2.1, all.2.2.2.1, all.2.2.2.2⟩, fun isProper =>
      ⟨isProper.toIsName, isProper.notSelf, isProper.notAround, isProper.isShort, isProper.noZero⟩⟩

theorem IsName.isProper {name : Name} (isName : IsName name) (unhidden : ¬isHidden name)
    (isShort : name.length ≤ greatestNameSize) (noZero : 0 ∉ name) : IsProper name := by
  refine ⟨isName, ?_, ?_, isShort, noZero⟩
  · rintro rfl
    exact unhidden rfl
  · rintro rfl
    exact unhidden rfl

/-- The names between the slashes of a path. -/
def steps (path : Path) : List Name := (path.splitOn slash).filter fun name => !name.isEmpty

/-- The path to a place below the directory at a path. -/
def below (path : Path) (place : Location) : Path := place.foldl join path

theorem names_eq (path : Path) :
    names path = steps path ++ if endsWithSlash path then [[]] else [] := rfl

theorem steps_slash (front back : Path) :
    steps (front ++ slash :: back) = steps front ++ steps back := by
  rw [steps, List.splitOn_append_cons_self, List.filter_append]
  rfl

theorem steps_of_isName {name : Name} (isName : IsName name) : steps name = [name] := by
  simp [steps, List.splitOn_eq_singleton isName.noSlash, isName.notEmpty]

theorem exists_of_endsWithSlash {path : Path} (ends : endsWithSlash path) :
    ∃ front, path = front ++ [slash] :=
  List.getLast?_eq_some_iff.mp (beq_iff_eq.mp ends)

theorem not_isAbsolute_of_isName {name : Name} (isName : IsName name) :
    isAbsolute name = false := by
  rw [isAbsolute, beq_eq_false_iff_ne]
  intro startsWithSlash
  exact isName.noSlash (List.mem_of_head? startsWithSlash)

/-- A name is put behind a path that is not empty, with a slash between them if there is none. -/
theorem join_cases {path : Path} (notEmpty : path ≠ []) {name : Name} (isName : IsName name) :
    (∃ front, path = front ++ [slash] ∧ join path name = front ++ slash :: name) ∨
      endsWithSlash path = false ∧ join path name = path ++ slash :: name := by
  have isEmpty : path.isEmpty = false := by simpa using notEmpty
  rw [join, not_isAbsolute_of_isName isName, isEmpty]
  split
  · next ends => simp at ends
  · split
    · next ends =>
      rcases exists_of_endsWithSlash ends with ⟨front, rfl⟩
      exact .inl ⟨front, rfl, by simp⟩
    · next noSlash => exact .inr ⟨by simpa using noSlash, rfl⟩

theorem steps_join {name : Name} (isName : IsName name) (path : Path) :
    steps (join path name) = steps path ++ [name] := by
  by_cases isEmpty : path = []
  · have isJoin : join path name = name := by simp [join, isEmpty]
    rw [isJoin, steps_of_isName isName, isEmpty]
    rfl
  · rcases join_cases isEmpty isName with ⟨front, rfl, isJoin⟩ | ⟨-, isJoin⟩
    · have front_slash : steps (front ++ [slash]) = steps front := by
        simpa [steps] using steps_slash front []
      rw [isJoin, steps_slash, steps_of_isName isName, front_slash]
    · rw [isJoin, steps_slash, steps_of_isName isName]

theorem exists_join_eq_append (path : Path) (name : Name) :
    ∃ front, join path name = front ++ name := by
  rw [join]
  split
  · exact ⟨[], rfl⟩
  · split
    · exact ⟨path, rfl⟩
    · exact ⟨path ++ [slash], by simp⟩

theorem endsWithSlash_join {name : Name} (isName : IsName name) (path : Path) :
    endsWithSlash (join path name) = false := by
  rcases exists_join_eq_append path name with ⟨front, isJoin⟩
  have isLast := List.getLast?_eq_some_getLast isName.notEmpty
  rw [endsWithSlash, isJoin, List.getLast?_append, isLast, Option.some_or, ← isLast,
    beq_eq_false_iff_ne]
  intro isSlash
  exact isName.noSlash (List.mem_of_getLast? isSlash)

theorem names_join {name : Name} (isName : IsName name) (path : Path) :
    names (join path name) = steps path ++ [name] := by
  simp [names_eq, endsWithSlash_join isName, steps_join isName]

theorem names_of_isName {name : Name} (isName : IsName name) : names name = [name] := by
  have isJoin : join [] name = name := by simp [join]
  have isNames := names_join isName []
  rwa [isJoin] at isNames

/-- A name ends in the text after its last dot if something stands before that dot. -/
inductive EndsIn : Name → String → Prop
  | dotted {front : Name} {extension : String} (isBehind : front ≠ [])
      (isLast : dot ∉ Utf8.encode extension) :
      EndsIn (front ++ dot :: Utf8.encode extension) extension

/-- The extension of a name is the text that it ends in, and the empty text if there is none.
Extensions are texts, as those in a list are: other bytes after the last dot are no extension. -/
inductive HasExtension (name : Name) : String → Prop
  | ending {extension : String} (ends : EndsIn name extension) : HasExtension name extension
  | without (isNone : ∀ extension, ¬EndsIn name extension) : HasExtension name ""

/-- A name has no dot behind its first byte, or it has a last one there. -/
theorem dot_cases (name : Name) :
    dot ∉ name.tail ∨ ∃ front back, front ≠ [] ∧ dot ∉ back ∧ name = front ++ dot :: back := by
  by_cases hasDot : dot ∈ name.tail
  · rcases List.eq_append_cons_of_mem (List.mem_reverse.mpr hasDot) with
      ⟨back, front, split, isLast⟩
    rcases name with _ | ⟨first, rest⟩
    · cases hasDot
    · have isRest : rest = front.reverse ++ dot :: back.reverse := by
        simpa using congrArg List.reverse split
      refine .inr ⟨first :: front.reverse, back.reverse, by simp, by simpa using isLast, ?_⟩
      rw [isRest, List.cons_append]
  · exact .inl hasDot

theorem forall_reverse_ne_dot {bytes : List UInt8} (noDot : dot ∉ bytes) :
    ∀ byte ∈ bytes.reverse, (byte != dot) = true := by
  intro byte isThere
  rw [bne_iff_ne]
  rintro rfl
  exact noDot (List.mem_reverse.mp isThere)

theorem extension_dotted {front back : Name} (isBehind : front ≠ []) (isLast : dot ∉ back) :
    extension (front ++ dot :: back) = (Utf8.textOf? back).getD "" := by
  have reversed : (front ++ dot :: back).reverse = back.reverse ++ dot :: front.reverse := by simp
  have noDot := forall_reverse_ne_dot isLast
  have taken : (back.reverse ++ dot :: front.reverse).takeWhile (· != dot) = back.reverse := by
    rw [List.takeWhile_append_of_pos noDot]
    simp
  have left : (back.reverse ++ dot :: front.reverse).dropWhile (· != dot) =
      dot :: front.reverse := by
    rw [List.dropWhile_append_of_pos noDot]
    simp
  by_cases isAround : front ++ dot :: back = [dot, dot]
  · -- The name of the directory around has no extension; its second dot counts as the last one.
    have isEmpty : back = [] := by
      rcases front with _ | ⟨first, rest⟩
      · exact absurd rfl isBehind
      · have parts : first = dot ∧ rest = [] ∧ back = [] := by
          simpa [List.append_eq_cons_iff] using isAround
        exact parts.2.2
    rw [isAround, isEmpty]
    decide +kernel
  · simp [extension, ending?, reversed, taken, left, isAround, isBehind]

theorem extension_without {name : Name} (noDot : dot ∉ name.tail) : extension name = "" := by
  have left : (name.reverse.dropWhile (· != dot)).drop 1 = [] := by
    rcases name with _ | ⟨first, rest⟩
    · rfl
    · rw [List.tail_cons] at noDot
      rw [List.reverse_cons, List.dropWhile_append_of_pos (forall_reverse_ne_dot noDot)]
      by_cases isDot : first = dot <;> simp [isDot]
  simp [extension, ending?, left]

theorem extension_of_endsIn {name : Name} {found : String} (ends : EndsIn name found) :
    extension name = found := by
  cases ends with
  | dotted isBehind isLast =>
      rw [extension_dotted isBehind isLast, Utf8.textOf?_eq_some_iff.mpr rfl, Option.getD_some]

theorem extension_of_not_endsIn {name : Name} (isNone : ∀ found, ¬EndsIn name found) :
    extension name = "" := by
  rcases dot_cases name with noDot | ⟨front, back, isBehind, isLast, rfl⟩
  · exact extension_without noDot
  · rw [extension_dotted isBehind isLast]
    rcases isText : Utf8.textOf? back with _ | found
    · rfl
    · rw [Utf8.textOf?_eq_some_iff] at isText
      subst isText
      exact absurd (.dotted isBehind isLast) (isNone found)

theorem hasExtension_iff {name : Name} {found : String} :
    HasExtension name found ↔ extension name = found := by
  constructor
  · rintro (ends | isNone)
    · exact extension_of_endsIn ends
    · exact extension_of_not_endsIn isNone
  · rintro rfl
    by_cases isSome : ∃ found, EndsIn name found
    · rcases isSome with ⟨found, ends⟩
      rw [extension_of_endsIn ends]
      exact .ending ends
    · have isNone := not_exists.mp isSome
      rw [extension_of_not_endsIn isNone]
      exact .without isNone

end Path

/-! ## Following a path further -/

namespace Entry

theorem get?_cons (entry : Entry) (name : Name) (place : Location) :
    entry.get? (name :: place) = (entry.child? name).bind (·.get? place) := by
  rw [get?]
  cases entry.child? name <;> rfl

theorem get?_singleton (entry : Entry) (name : Name) : entry.get? [name] = entry.child? name := by
  rw [get?_cons]
  cases entry.child? name <;> rfl

theorem get?_append (entry : Entry) (front back : Location) :
    entry.get? (front ++ back) = (entry.get? front).bind (·.get? back) := by
  induction front generalizing entry with
  | nil => rfl
  | cons name front ih =>
      rw [List.cons_append, get?_cons, get?_cons, Option.bind_assoc]
      congr 1
      funext child
      exact ih child

end Entry

variable {disk : Disk} {path : Path} {location : Location}

theorem resolve_eq_ok_iff {last : Bool} :
    resolve disk last path = .ok location ↔
      0 ∉ path ∧ path ≠ [] ∧ path.length ≤ greatestPathSize ∧
        follow disk.root last greatestLinkCount
          (if Path.isAbsolute path then [] else disk.workplace) (Path.names path) =
            .ok location := by
  rw [resolve]
  split
  · next hasZero => simp [List.contains_iff_mem.mp hasZero]
  · next noZero =>
    split
    · next isEmpty => simp [List.isEmpty_iff.mp isEmpty]
    · next notEmpty =>
      split
      · next isLong => simp [Nat.not_le.mpr isLong]
      · next isShort => simp_all

theorem entryAt_eq_ok_iff {entry : Entry} :
    entryAt disk path = .ok entry ↔
      ∃ location, resolve disk true path = .ok location ∧ disk.root.get? location = some entry := by
  rw [entryAt]
  split
  · next fails => simp [fails]
  · next location isResolved =>
    simp only [isResolved]
    split
    · next isThere => simp [isThere]
    · next isThere => simp [isThere]

theorem follow_place {root : Entry} {place : Location} {name : Name}
    (leads : turn root location name = .ok (.place place)) (links : Nat) :
    follow root true links location [name] = .ok place := by
  simp [follow, leads]

/-- A name that a directory looks up leads to its entry, if that is no link. -/
theorem turn_child {root child : Entry} {access : Access} {entries : List (Name × Entry)}
    (isThere : root.get? location = some (.directory access entries))
    (passes : access.passing = none) {name : Name} (isProper : Path.IsProper name)
    (isChild : entries.lookup name = some child) (noLink : ∀ target, child ≠ .link target) :
    turn root location name = .ok (.place (location ++ [name])) := by
  rw [turn]
  simp only [isThere, passes, isChild, List.isEmpty_iff, isProper.notEmpty, beq_iff_eq,
    isProper.notSelf, isProper.notAround, Nat.not_lt.mpr isProper.isShort, if_false]

/-- A name leads to the entry of the directory where relative paths begin. -/
theorem entryAt_name {child : Entry} {access : Access} {entries : List (Name × Entry)}
    (isThere : disk.root.get? disk.workplace = some (.directory access entries))
    (passes : access.passing = none) {name : Name} (isProper : Path.IsProper name)
    (isChild : entries.lookup name = some child) (noLink : ∀ target, child ≠ .link target) :
    entryAt disk name = .ok child := by
  refine entryAt_eq_ok_iff.mpr ⟨disk.workplace ++ [name], resolve_eq_ok_iff.mpr
    ⟨isProper.noZero, isProper.notEmpty, ?_, ?_⟩, ?_⟩
  · exact Nat.le_trans isProper.isShort (by decide)
  · rw [Path.not_isAbsolute_of_isName isProper.toIsName, Path.names_of_isName isProper.toIsName]
    exact follow_place (turn_child isThere passes isProper isChild noLink) _
  · rw [Entry.get?_append, isThere, Option.bind_some, Entry.get?_singleton]
    exact isChild

end JavaFacts.Disk
