import Mathlib.Data.List.Nodup
import Mathlib.Data.List.Perm.Basic
import JavaFacts.Facts.Basic

/-!
# Receivers and their calls

A call is added to its receiver by looking up the place of the receiver and changing the list there.
The same is done by going along the entries: the names are put behind those of the receiver where it
is met, and at the end of the entries if it is not met. Everything else in this file is proved about
this second form, by induction along the entries.

Collections can be merged, receiver by receiver. Adding calls to a collection is the same as adding
them to an empty one and merging the result into it.
-/

namespace JavaFacts

namespace ReceiverCalls

/-! ## Going along the entries -/

/-- Puts names behind those of a receiver; a new receiver comes last. -/
def appendTo : List (String × Array String) → (receiver : String) → (names : Array String) →
    List (String × Array String)
  | [], receiver, names => [(receiver, names)]
  | (known, earlier) :: rest, receiver, names =>
    if known = receiver then (known, earlier ++ names) :: rest
    else (known, earlier) :: appendTo rest receiver names

/-- Adds calls on a receiver, in their order; a new receiver comes last. -/
def addAll (calls : ReceiverCalls) (receiver : String) (names : Array String) : ReceiverCalls :=
  ⟨(appendTo calls.entries.toList receiver names).toArray⟩

/-- The receivers in the order of their first call. -/
def receivers (calls : ReceiverCalls) : List String := calls.entries.toList.map Prod.fst

/-- The names of all methods that are called, receiver by receiver. -/
def names (calls : ReceiverCalls) : List String :=
  calls.entries.toList.flatMap fun entry => entry.2.toList

theorem appendTo_known (receiver : String) (earlier names : Array String)
    (rest : List (String × Array String)) :
    appendTo ((receiver, earlier) :: rest) receiver names = (receiver, earlier ++ names) :: rest :=
  if_pos rfl

theorem appendTo_other {known receiver : String} (differs : known ≠ receiver)
    (earlier names : Array String) (rest : List (String × Array String)) :
    appendTo ((known, earlier) :: rest) receiver names =
      (known, earlier) :: appendTo rest receiver names :=
  if_neg differs

theorem appendTo_of_noPlace {entries : List (String × Array String)} {receiver : String}
    (noPlace : (entries.findIdx? fun entry => entry.1 == receiver) = none) (names : Array String) :
    appendTo entries receiver names = entries ++ [(receiver, names)] := by
  induction entries with
  | nil => rfl
  | cons first rest ih =>
      rw [List.findIdx?_eq_none_iff, List.forall_mem_cons, ← List.findIdx?_eq_none_iff] at noPlace
      rw [appendTo_other (by simpa using noPlace.1), ih noPlace.2, List.cons_append]

theorem appendTo_of_place {entries : List (String × Array String)} {receiver : String}
    {place : Nat} (isPlace : (entries.findIdx? fun entry => entry.1 == receiver) = some place)
    (names : Array String) :
    appendTo entries receiver names =
      entries.modify place fun entry => (entry.1, entry.2 ++ names) := by
  induction entries generalizing place with
  | nil => cases isPlace
  | cons first rest ih =>
      rcases first with ⟨known, earlier⟩
      rw [List.findIdx?_cons] at isPlace
      by_cases isKnown : known = receiver
      · subst isKnown
        rw [if_pos (by simp), Option.some.injEq] at isPlace
        subst isPlace
        rw [appendTo_known, List.modify_zero_cons]
      · rw [if_neg (by simpa using isKnown), Option.map_eq_some_iff] at isPlace
        rcases isPlace with ⟨later, isLater, rfl⟩
        rw [appendTo_other isKnown, ih isLater, List.modify_succ_cons]

/-- Looking up the place of a receiver and going along the entries add the same call. -/
theorem add_eq_addAll (calls : ReceiverCalls) (receiver name : String) :
    calls.add receiver name = calls.addAll receiver #[name] := by
  have lookup : calls.indexOf? receiver =
      calls.entries.toList.findIdx? fun entry => entry.1 == receiver := by
    rw [indexOf?, ← List.findIdx?_toArray, Array.toArray_toList]
  rw [add, addAll]
  rcases isPlace : calls.indexOf? receiver with _ | place
  · rw [appendTo_of_noPlace (lookup.symm.trans isPlace), ← Array.toList_push, Array.toArray_toList]
  · rw [appendTo_of_place (lookup.symm.trans isPlace)]
    simp only [ReceiverCalls.mk.injEq]
    apply Array.toList_inj.mp
    rw [Array.toList_modify]
    rfl

/-! ## What is kept by adding -/

theorem map_fst_appendTo (entries : List (String × Array String)) (receiver : String)
    (names : Array String) :
    (appendTo entries receiver names).map Prod.fst =
      if receiver ∈ entries.map Prod.fst then entries.map Prod.fst
      else entries.map Prod.fst ++ [receiver] := by
  induction entries with
  | nil => rfl
  | cons entry rest ih =>
      rcases entry with ⟨known, earlier⟩
      by_cases isKnown : known = receiver
      · subst isKnown
        rw [appendTo_known]
        simp
      · have differs : receiver ≠ known := Ne.symm isKnown
        rw [appendTo_other isKnown, List.map_cons, ih]
        simp only [List.map_cons, List.mem_cons, differs, false_or]
        split
        · rfl
        · rfl

theorem nodup_appendTo {entries : List (String × Array String)}
    (distinct : (entries.map Prod.fst).Nodup) (receiver : String) (names : Array String) :
    ((appendTo entries receiver names).map Prod.fst).Nodup := by
  rw [map_fst_appendTo]
  split
  · exact distinct
  · next isNew => simpa using List.Nodup.concat isNew distinct

theorem mem_appendTo {entries : List (String × Array String)} {receiver : String}
    {names : Array String} {entry : String × Array String}
    (isEntry : entry ∈ appendTo entries receiver names) :
    entry ∈ entries ∨ ∃ earlier, entry = (receiver, earlier ++ names) := by
  induction entries with
  | nil =>
      right
      exact ⟨#[], by simpa [appendTo] using isEntry⟩
  | cons first rest ih =>
      rcases first with ⟨known, earlier⟩
      by_cases isKnown : known = receiver
      · subst isKnown
        rw [appendTo_known] at isEntry
        rcases List.mem_cons.mp isEntry with rfl | isLater
        · exact Or.inr ⟨earlier, rfl⟩
        · exact Or.inl (List.mem_cons_of_mem _ isLater)
      · rw [appendTo_other isKnown] at isEntry
        rcases List.mem_cons.mp isEntry with rfl | isLater
        · exact Or.inl List.mem_cons_self
        · rcases ih isLater with wasThere | isNew
          · exact Or.inl (List.mem_cons_of_mem _ wasThere)
          · exact Or.inr isNew

theorem flatMap_appendTo_perm (entries : List (String × Array String)) (receiver : String)
    (names : Array String) :
    ((appendTo entries receiver names).flatMap fun entry => entry.2.toList).Perm
      ((entries.flatMap fun entry => entry.2.toList) ++ names.toList) := by
  induction entries with
  | nil => simp [appendTo]
  | cons first rest ih =>
      rcases first with ⟨known, earlier⟩
      by_cases isKnown : known = receiver
      · subst isKnown
        rw [appendTo_known, List.flatMap_cons, List.flatMap_cons, Array.toList_append,
          List.append_assoc, List.append_assoc]
        exact List.perm_append_comm.append_left _
      · rw [appendTo_other isKnown, List.flatMap_cons, List.flatMap_cons, List.append_assoc]
        exact ih.append_left _

theorem nodup_receivers_add {calls : ReceiverCalls} (distinct : calls.receivers.Nodup)
    (receiver name : String) : (calls.add receiver name).receivers.Nodup := by
  rw [add_eq_addAll]
  exact nodup_appendTo distinct receiver #[name]

theorem mem_entries_add {calls : ReceiverCalls} {receiver name : String}
    {entry : String × Array String} (isEntry : entry ∈ (calls.add receiver name).entries) :
    entry ∈ calls.entries ∨ ∃ earlier, entry = (receiver, earlier ++ #[name]) := by
  rw [add_eq_addAll, addAll, List.mem_toArray] at isEntry
  rw [← Array.mem_toList_iff]
  exact mem_appendTo isEntry

theorem names_add_perm (calls : ReceiverCalls) (receiver name : String) :
    (calls.add receiver name).names.Perm (calls.names ++ [name]) := by
  rw [add_eq_addAll]
  exact flatMap_appendTo_perm calls.entries.toList receiver #[name]

/-! ## Merging -/

theorem appendTo_appendTo (entries : List (String × Array String)) (receiver : String)
    (earlier later : Array String) :
    appendTo (appendTo entries receiver earlier) receiver later =
      appendTo entries receiver (earlier ++ later) := by
  induction entries with
  | nil => exact appendTo_known receiver earlier later []
  | cons first rest ih =>
      rcases first with ⟨known, names⟩
      by_cases isKnown : known = receiver
      · subst isKnown
        rw [appendTo_known, appendTo_known, appendTo_known, Array.append_assoc]
      · rw [appendTo_other isKnown, appendTo_other isKnown, appendTo_other isKnown, ih]

/-- Names of a known receiver may as well be appended after those of another one. -/
theorem appendTo_comm {entries : List (String × Array String)} {receiver other : String}
    (isThere : receiver ∈ entries.map Prod.fst) (differs : receiver ≠ other)
    (names others : Array String) :
    appendTo (appendTo entries receiver names) other others =
      appendTo (appendTo entries other others) receiver names := by
  induction entries with
  | nil => cases isThere
  | cons first rest ih =>
      rcases first with ⟨known, earlier⟩
      by_cases isKnown : known = receiver
      · subst isKnown
        rw [appendTo_known, appendTo_other differs, appendTo_other differs, appendTo_known]
      · have isLater : receiver ∈ rest.map Prod.fst := by
          rcases List.mem_cons.mp isThere with rfl | isLater
          · exact absurd rfl isKnown
          · exact isLater
        rw [appendTo_other isKnown]
        by_cases isOther : known = other
        · subst isOther
          rw [appendTo_known, appendTo_known, appendTo_other isKnown]
        · rw [appendTo_other isOther, appendTo_other isOther, appendTo_other isKnown, ih isLater]

theorem addAll_addAll (calls : ReceiverCalls) (receiver : String) (earlier later : Array String) :
    (calls.addAll receiver earlier).addAll receiver later =
      calls.addAll receiver (earlier ++ later) := by
  simp only [addAll, appendTo_appendTo]

theorem addAll_comm {calls : ReceiverCalls} {receiver other : String}
    (isThere : receiver ∈ calls.receivers) (differs : receiver ≠ other)
    (names others : Array String) :
    (calls.addAll receiver names).addAll other others =
      (calls.addAll other others).addAll receiver names := by
  simp only [addAll, appendTo_comm isThere differs]

theorem mem_receivers_addAll_of_mem {calls : ReceiverCalls} {receiver : String}
    (isThere : receiver ∈ calls.receivers) (other : String) (names : Array String) :
    receiver ∈ (calls.addAll other names).receivers := by
  rw [receivers, addAll, map_fst_appendTo]
  split
  · exact isThere
  · exact List.mem_append_left _ isThere

theorem mem_receivers_addAll_self (calls : ReceiverCalls) (receiver : String)
    (names : Array String) : receiver ∈ (calls.addAll receiver names).receivers := by
  rw [receivers, addAll, map_fst_appendTo]
  split
  · next isThere => exact isThere
  · simp

/-- Adds entries one after another. -/
def addEntries (calls : ReceiverCalls) (entries : List (String × Array String)) : ReceiverCalls :=
  entries.foldl (fun merged entry => merged.addAll entry.1 entry.2) calls

theorem addEntries_comm {entries : List (String × Array String)} {receiver : String}
    (isOther : receiver ∉ entries.map Prod.fst) {calls : ReceiverCalls}
    (isThere : receiver ∈ calls.receivers) (names : Array String) :
    (calls.addAll receiver names).addEntries entries =
      (calls.addEntries entries).addAll receiver names := by
  induction entries generalizing calls with
  | nil => rfl
  | cons first rest ih =>
      rw [List.map_cons, List.mem_cons, not_or] at isOther
      rw [addEntries, List.foldl_cons, addAll_comm isThere isOther.1]
      exact ih isOther.2 (mem_receivers_addAll_of_mem isThere first.1 first.2)

/-- Names that are appended to entries may as well be added after these entries. -/
theorem addEntries_appendTo {entries : List (String × Array String)}
    (distinct : (entries.map Prod.fst).Nodup) (calls : ReceiverCalls) (receiver : String)
    (names : Array String) :
    calls.addEntries (appendTo entries receiver names) =
      (calls.addEntries entries).addAll receiver names := by
  induction entries generalizing calls with
  | nil => rfl
  | cons first rest ih =>
      rcases first with ⟨known, earlier⟩
      rcases List.nodup_cons.mp distinct with ⟨isOther, restDistinct⟩
      by_cases isKnown : known = receiver
      · -- The receiver is there after its first entry, and as no other entry is its own, the names
        -- can wait until the rest is added.
        subst isKnown
        rw [appendTo_known, addEntries, List.foldl_cons, ← addAll_addAll]
        exact addEntries_comm isOther (mem_receivers_addAll_self calls known earlier) names
      · rw [appendTo_other isKnown]
        exact ih restDistinct (calls.addAll known earlier)

/-- The collection with all calls of a second one added, receiver by receiver. -/
def merge (calls other : ReceiverCalls) : ReceiverCalls := calls.addEntries other.entries.toList

theorem merge_add {other : ReceiverCalls} (distinct : other.receivers.Nodup)
    (calls : ReceiverCalls) (receiver name : String) :
    calls.merge (other.add receiver name) = (calls.merge other).add receiver name := by
  rw [add_eq_addAll, add_eq_addAll]
  exact addEntries_appendTo distinct calls receiver #[name]

/-- Adding calls one by one is merging in the collection of these calls alone. -/
theorem foldl_add_eq_merge (calls : ReceiverCalls) (added : List (String × String)) :
    added.foldl (fun receivers call => receivers.add call.1 call.2) calls =
      calls.merge (added.foldl (fun receivers call => receivers.add call.1 call.2) .empty) := by
  -- The induction is over all collections with distinct receivers, not only the empty one.
  suffices general : ∀ other : ReceiverCalls, other.receivers.Nodup →
      added.foldl (fun receivers call => receivers.add call.1 call.2) (calls.merge other) =
        calls.merge (added.foldl (fun receivers call => receivers.add call.1 call.2) other) from
    general .empty .nil
  intro other distinct
  induction added generalizing other with
  | nil => rfl
  | cons call later ih =>
      rw [List.foldl_cons, List.foldl_cons, ← merge_add distinct]
      exact ih (other.add call.1 call.2) (nodup_receivers_add distinct call.1 call.2)

end ReceiverCalls

end JavaFacts
