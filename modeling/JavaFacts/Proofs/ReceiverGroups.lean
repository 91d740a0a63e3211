import Mathlib.Algebra.GroupWithZero.Nat
import Mathlib.Data.List.Induction
import JavaFacts.Proofs.Extraction
import JavaFacts.Proofs.Receivers

/-!
# Qualified calls grouped by their receivers

Receivers are collected call by call: a call is added to the names of its receiver wherever this
receiver stands by then. The result can be read off the whole list of calls. The receivers are those
of the list, each where it is met first, and the names of a receiver are those of its calls in the
order of the list. So extraction groups the qualified calls of a tree, in pre-order, by the texts of
their receivers.
-/

namespace JavaFacts

open InOrder

/-! ## Adding calls to a collection -/

namespace ReceiverCalls

/-- The collection of calls, given by their receivers and names, that are added one by one. -/
def ofCalls (calls : List (String × String)) : ReceiverCalls :=
  calls.foldl (fun receivers call => receivers.add call.1 call.2) .empty

theorem ofCalls_concat (calls : List (String × String)) (call : String × String) :
    ofCalls (calls ++ [call]) = (ofCalls calls).add call.1 call.2 := by
  rw [ofCalls, List.foldl_append]
  rfl

theorem receivers_add (calls : ReceiverCalls) (receiver name : String) :
    (calls.add receiver name).receivers =
      if receiver ∈ calls.receivers then calls.receivers else calls.receivers ++ [receiver] := by
  rw [add_eq_addAll]
  exact map_fst_appendTo calls.entries.toList receiver #[name]

/-- The receivers are those of the calls, without later repetitions. -/
theorem receivers_ofCalls (calls : List (String × String)) :
    (ofCalls calls).receivers = (calls.map Prod.fst).eraseDups := by
  induction calls using List.reverseRecOn with
  | nil => rfl
  | append_singleton earlier call ih =>
      rw [ofCalls_concat, receivers_add, ih, List.map_append, List.eraseDups_append,
        List.map_singleton, List.removeAll]
      by_cases isKnown : call.1 ∈ earlier.map Prod.fst
      · rw [if_pos (List.mem_eraseDups.mpr isKnown),
          List.filter_cons_of_neg (by simpa using isKnown)]
        simp
      · rw [if_neg (mt List.mem_eraseDups.mp isKnown),
          List.filter_cons_of_pos (by simpa using isKnown)]
        rfl

/-- Looking up the place of a receiver and going along the entries find the same names. -/
theorem get_eq_lookup (calls : ReceiverCalls) (receiver : String) :
    calls.get receiver = (calls.entries.toList.lookup receiver).getD #[] := by
  rcases calls with ⟨⟨entries⟩⟩
  simp only [get, indexOf?, List.findIdx?_toArray]
  induction entries with
  | nil => rfl
  | cons entry rest ih =>
      rcases entry with ⟨known, names⟩
      by_cases isKnown : known = receiver
      · simp [List.findIdx?_cons, isKnown]
      · rw [List.findIdx?_cons, if_neg (by simpa using isKnown), List.lookup_cons,
          beq_eq_false_iff_ne.mpr (Ne.symm isKnown), ← ih]
        rcases isPlace : rest.findIdx? (fun entry => entry.1 == receiver) with _ | place
        · simp [isPlace]
        · simp [isPlace]

theorem lookup_appendTo (entries : List (String × Array String)) (receiver other : String)
    (names : Array String) :
    ((appendTo entries receiver names).lookup other).getD #[] =
      if receiver = other then (entries.lookup other).getD #[] ++ names
      else (entries.lookup other).getD #[] := by
  induction entries with
  | nil =>
      by_cases isSame : receiver = other
      · simp [appendTo, isSame]
      · simp [appendTo, List.lookup_cons, isSame, beq_eq_false_iff_ne.mpr (Ne.symm isSame)]
  | cons entry rest ih =>
      rcases entry with ⟨known, earlier⟩
      by_cases isKnown : known = receiver
      · subst isKnown
        rw [appendTo_known, List.lookup_cons, List.lookup_cons]
        by_cases isSame : known = other
        · simp [isSame]
        · simp [isSame, beq_eq_false_iff_ne.mpr (Ne.symm isSame)]
      · rw [appendTo_other isKnown, List.lookup_cons, List.lookup_cons]
        by_cases isSame : known = other
        · subst isSame
          simp [Ne.symm isKnown]
        · simp [beq_eq_false_iff_ne.mpr (Ne.symm isSame), ih]

theorem get_add (calls : ReceiverCalls) (receiver name other : String) :
    (calls.add receiver name).get other =
      if receiver = other then (calls.get other).push name else calls.get other := by
  rw [add_eq_addAll, get_eq_lookup, get_eq_lookup, addAll]
  exact lookup_appendTo calls.entries.toList receiver other #[name]

/-- The names of a receiver are those of its calls, in their order. -/
theorem get_ofCalls (calls : List (String × String)) (receiver : String) :
    ((ofCalls calls).get receiver).toList =
      (calls.filter fun call => call.1 = receiver).map Prod.snd := by
  induction calls using List.reverseRecOn with
  | nil => simp [ofCalls, empty, get, indexOf?]
  | append_singleton earlier call ih =>
      rw [ofCalls_concat, get_add, List.filter_append, List.map_append, ← ih]
      by_cases isSame : call.1 = receiver
      · simp [isSame]
      · simp [isSame]

theorem called_ofCalls (calls : List (String × String)) :
    ∀ entry ∈ (ofCalls calls).entries, entry.2 ≠ #[] := by
  induction calls using List.reverseRecOn with
  | nil => simp [ofCalls, empty]
  | append_singleton earlier call ih =>
      intro entry isEntry
      rw [ofCalls_concat] at isEntry
      rcases mem_entries_add isEntry with isOld | ⟨names, rfl⟩
      · exact ih entry isOld
      · simp

theorem length_names_ofCalls (calls : List (String × String)) :
    (ofCalls calls).names.length = calls.length := by
  induction calls using List.reverseRecOn with
  | nil => rfl
  | append_singleton earlier call ih =>
      rw [ofCalls_concat, (names_add_perm _ _ _).length_eq, List.length_append, ih,
        List.length_append]
      rfl

end ReceiverCalls

/-! ## The qualified calls of a tree -/

namespace Node

/-- The receiver of a call that has one, and the name of the method. -/
def qualified? : Node → Option (Node × String)
  | methodInvocation _ name (some object) _ => some (object, name)
  | _ => none

/-- The receivers and names of all calls in a tree that have a receiver, in pre-order. -/
def qualifiedCalls (root : Node) : List (Node × String) := root.preorder.filterMap qualified?

theorem qualified?_eq_some_iff {node object : Node} {name : String} :
    node.qualified? = some (object, name) ↔
      ∃ span arguments, node = methodInvocation span name (some object) arguments := by
  constructor
  · intro isQualified
    rw [qualified?.eq_def] at isQualified
    split at isQualified
    · cases isQualified
      exact ⟨_, _, rfl⟩
    · cases isQualified
  · rintro ⟨span, arguments, rfl⟩
    rfl

end Node

namespace Extraction

theorem qualifiedCall?_eq_bind (unit : SourceUnit) (node : Node) :
    qualifiedCall? unit node =
      node.qualified?.bind fun call =>
        (unit.text call.1).toOption.map fun text => (text, call.2) := by
  cases node with
  | methodInvocation span name receiver arguments => cases receiver <;> rfl
  | _ => rfl

/-- The receivers of the calls in a tree can be read if extraction succeeds. -/
theorem readable_of_mem_qualifiedCalls {unit : SourceUnit} {root : Node}
    (sound : ∀ node ∈ root.preorder, Sound unit node) {call : Node × String}
    (isCall : call ∈ root.qualifiedCalls) : Readable unit call.1 := by
  rcases List.mem_filterMap.mp isCall with ⟨node, isNode, isQualified⟩
  rcases Node.qualified?_eq_some_iff.mp isQualified with ⟨span, arguments, rfl⟩
  exact (sound _ isNode).2.2 call.1 rfl

/-- With the texts of the receivers, the calls are those that extraction records. -/
theorem filterMap_qualifiedCall? {unit : SourceUnit} {root : Node} {texts : List String}
    (areTexts : List.Forall₂ (fun call text => unit.text call.1 = .ok text) root.qualifiedCalls
      texts) :
    root.preorder.filterMap (qualifiedCall? unit) =
      texts.zip (root.qualifiedCalls.map Prod.snd) := by
  have isBind : root.preorder.filterMap (qualifiedCall? unit) =
      root.qualifiedCalls.filterMap fun call =>
        (unit.text call.1).toOption.map fun text => (text, call.2) := by
    rw [Node.qualifiedCalls, List.filterMap_filterMap]
    exact List.filterMap_congr fun node _ => qualifiedCall?_eq_bind unit node
  rw [isBind]
  generalize root.qualifiedCalls = calls at areTexts
  clear isBind
  induction areTexts with
  | nil => rfl
  | cons isText _ ih => simp [isText, ih]

/-- To take the calls with a text is to take the calls whose receivers have this text. -/
theorem filter_zip_texts {unit : SourceUnit} {calls : List (Node × String)} {texts : List String}
    (areTexts : List.Forall₂ (fun call text => unit.text call.1 = .ok text) calls texts)
    (receiver : String) :
    ((texts.zip (calls.map Prod.snd)).filter fun call => call.1 = receiver).map Prod.snd =
      (calls.filter fun call => unit.text call.1 = .ok receiver).map Prod.snd := by
  induction areTexts with
  | nil => rfl
  | @cons call text calls texts isText _ ih =>
      by_cases isSame : text = receiver
      · simp [isText, isSame, ih]
      · simp [isText, isSame, ih]

end Extraction

namespace SourceUnit

open Extraction

/--
Extraction groups the calls of a tree that have a receiver. The receivers are the texts of their
receivers in pre-order, without later repetitions. The names of a receiver are those of the calls
whose receiver has this text, in pre-order, so that every receiver has a name, and there are as many
names as calls with a receiver in the tree.
-/
theorem extract_groups_qualifiedCalls {unit : SourceUnit} {facts : Facts}
    (isOk : unit.extract = .ok facts) :
    (∃ texts, List.Forall₂ (fun call text => unit.text call.1 = .ok text)
        unit.root.qualifiedCalls texts ∧ facts.receivers.receivers = texts.eraseDups) ∧
      (∀ receiver, (facts.callsOn receiver).toList =
        (unit.root.qualifiedCalls.filter fun call => unit.text call.1 = .ok receiver).map
          Prod.snd) ∧
      (∀ entry ∈ facts.receivers.entries, entry.2 ≠ #[]) ∧
      (facts.receivers.entries.toList.map fun entry => entry.2.size).sum =
        (unit.root.subtrees.filterMap Node.qualified?).length := by
  rcases extract_eq_ok_iff.mp isOk with ⟨sound, isFacts⟩
  rcases succeeds_mapM_iff.mpr fun call isCall => readable_of_mem_qualifiedCalls sound isCall with
    ⟨texts, isMap⟩
  have areTexts := mapM_eq_ok_iff.mp isMap
  have sameLength := areTexts.length_eq
  have grouped : facts.receivers =
      .ofCalls (texts.zip (unit.root.qualifiedCalls.map Prod.snd)) := by
    rw [isFacts, addFacts, filterMap_qualifiedCall? areTexts]
    rfl
  rw [grouped]
  refine ⟨⟨texts, areTexts, ?_⟩, ?_, ReceiverCalls.called_ofCalls _, ?_⟩
  · rw [ReceiverCalls.receivers_ofCalls, List.map_fst_zip (by simp [sameLength])]
  · intro receiver
    rw [Facts.callsOn, grouped, ReceiverCalls.get_ofCalls, filter_zip_texts areTexts]
  · have areNames := ReceiverCalls.length_names_ofCalls
      (texts.zip (unit.root.qualifiedCalls.map Prod.snd))
    rw [ReceiverCalls.names, List.length_flatMap] at areNames
    rw [← (unit.root.preorder_perm_subtrees.filterMap Node.qualified?).length_eq]
    change _ = unit.root.qualifiedCalls.length
    simpa [sameLength] using areNames

/-! ## Receivers at several depths -/

namespace NestedReceivers

def source : String := "x.f(y.g(x.h())); k(); y.f();"

/-- The name that a call is made on. -/
def object (start : Nat) : Node := .expression ⟨start, 1⟩ "identifier" []

def innermost : Node := .methodInvocation ⟨8, 5⟩ "h" (some (object 8)) []

def inner : Node := .methodInvocation ⟨4, 10⟩ "g" (some (object 4)) [innermost]

def outer : Node := .methodInvocation ⟨0, 15⟩ "f" (some (object 0)) [inner]

def plain : Node := .methodInvocation ⟨17, 3⟩ "k" none []

def last : Node := .methodInvocation ⟨22, 5⟩ "f" (some (object 22)) []

def root : Node := .compilationUnit ⟨0, 28⟩ [outer, plain, last]

def unit : SourceUnit := .ofTree source root

theorem preorder_root :
    root.preorder =
      [root, outer, object 0, inner, object 4, innermost, object 8, plain, last, object 22] := by
  have ofRoot : root.children = [outer, plain, last] := Node.mergeSort_eq_of_sorted (by decide)
  have ofOuter : outer.children = [object 0, inner] := Node.mergeSort_eq_of_sorted (by decide)
  have ofInner : inner.children = [object 4, innermost] := Node.mergeSort_eq_of_sorted (by decide)
  have ofInnermost : innermost.children = [object 8] := Node.mergeSort_eq_of_sorted (by decide)
  have ofPlain : plain.children = [] := Node.mergeSort_eq_of_sorted (by decide)
  have ofLast : last.children = [object 22] := Node.mergeSort_eq_of_sorted (by decide)
  have ofObject : ∀ start, (object start).children = [] := fun start =>
    Node.mergeSort_eq_of_sorted .nil
  simp [Node.preorder_eq, Node.preorderAll, ofRoot, ofOuter, ofInner, ofInnermost, ofPlain, ofLast,
    ofObject]

theorem sound_root : ∀ node ∈ unit.root.preorder, Sound unit node := by
  change ∀ node ∈ root.preorder, Sound unit node
  rw [preorder_root]
  decide +kernel

theorem qualifiedCalls_root :
    unit.root.qualifiedCalls =
      [(object 0, "f"), (object 4, "g"), (object 8, "h"), (object 22, "f")] := by
  change root.preorder.filterMap Node.qualified? = _
  rw [preorder_root]
  rfl

/-- Calls at different depths are grouped by what is written before them. -/
theorem extract_nestedReceivers :
    ∃ facts, unit.extract = .ok facts ∧ facts.receivers.receivers = ["x", "y"] ∧
      (facts.callsOn "x").toList = ["f", "h"] ∧ (facts.callsOn "y").toList = ["g", "f"] ∧
      (facts.callsOn "z").toList = [] ∧
      (facts.receivers.entries.toList.map fun entry => entry.2.size).sum = 4 := by
  have isOk := extract_of_allSound sound_root
  rcases extract_groups_qualifiedCalls isOk with
    ⟨⟨texts, areTexts, areReceivers⟩, areNames, _, isSum⟩
  rw [← (unit.root.preorder_perm_subtrees.filterMap Node.qualified?).length_eq] at isSum
  change _ = unit.root.qualifiedCalls.length at isSum
  simp only [qualifiedCalls_root] at areTexts areNames isSum
  have isTexts : texts = ["x", "y", "x", "y"] := by
    have areRead : ([(object 0, "f"), (object 4, "g"), (object 8, "h"), (object 22, "f")].mapM
        fun call => unit.text call.1).toOption = some ["x", "y", "x", "y"] := by decide +kernel
    have isMap := mapM_eq_ok_iff.mpr areTexts
    exact Option.some.inj ((toOption_eq_some_iff.mpr isMap).symm.trans areRead)
  refine ⟨_, isOk, ?_, ?_, ?_, ?_, isSum⟩
  · rw [areReceivers, isTexts]
    rfl
  · rw [areNames]
    decide +kernel
  · rw [areNames]
    decide +kernel
  · rw [areNames]
    decide +kernel

end NestedReceivers

end SourceUnit

end JavaFacts
