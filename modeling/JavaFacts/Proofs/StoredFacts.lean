import JavaFacts.Facts.Json
import JavaFacts.Proofs.InOrder
import JavaFacts.Proofs.ReadValues
import JavaFacts.Proofs.ReadingBack
import JavaFacts.Proofs.Receivers

/-!
# Facts are read back as they were written

Facts are stored if their numbers have 64 bits and their receivers are distinct. Stored facts can be
written as JSON and read back. On the other hand, whatever text facts are read from, they are stored
facts. So the written form is a normal form: of all the texts that stand for the same facts, with
fields in any order, with records written as lists, or with receivers that are repeated, it is the
one that is written.
-/

namespace JavaFacts

open JavaFacts.Json

/-! ## Receivers that are set -/

namespace ReceiverCalls

theorem indexOf?_eq_none_iff {calls : ReceiverCalls} {receiver : String} :
    calls.indexOf? receiver = none ↔ receiver ∉ calls.receivers := by
  simp only [indexOf?, receivers, Array.findIdx?_eq_none_iff, List.mem_map, Array.mem_toList_iff,
    not_exists, not_and]
  simp

theorem insert_of_new {calls : ReceiverCalls} {receiver : String}
    (isNew : receiver ∉ calls.receivers) (names : Array String) :
    calls.insert receiver names = ⟨calls.entries.push (receiver, names)⟩ := by
  rw [insert, indexOf?_eq_none_iff.mpr isNew]

theorem map_fst_modify (entries : List (String × Array String)) (place : Nat)
    (names : Array String) :
    (entries.modify place fun entry => (entry.1, names)).map Prod.fst = entries.map Prod.fst := by
  induction entries generalizing place with
  | nil => simp
  | cons entry entries ih =>
      rcases place with _ | place
      · rfl
      · rw [List.modify_succ_cons, List.map_cons, List.map_cons, ih]

theorem receivers_insert (calls : ReceiverCalls) (receiver : String) (names : Array String) :
    (calls.insert receiver names).receivers =
      if receiver ∈ calls.receivers then calls.receivers else calls.receivers ++ [receiver] := by
  split
  · next isThere =>
    rcases isPlace : calls.indexOf? receiver with _ | place
    · exact absurd isThere (indexOf?_eq_none_iff.mp isPlace)
    · rw [insert, isPlace, receivers, Array.toList_modify]
      exact map_fst_modify calls.entries.toList place names
  · next isNew => simp [insert_of_new isNew, receivers]

theorem nodup_receivers_insert {calls : ReceiverCalls} (distinct : calls.receivers.Nodup)
    (receiver : String) (names : Array String) : (calls.insert receiver names).receivers.Nodup := by
  rw [receivers_insert]
  split
  · exact distinct
  · next isNew => simpa using List.Nodup.concat isNew distinct

/-- Entries of new and distinct receivers are put at the end. -/
theorem insertAll_of_new {entries : List (String × Array String)}
    (distinct : (entries.map Prod.fst).Nodup) {calls : ReceiverCalls}
    (areNew : ∀ entry ∈ entries, entry.1 ∉ calls.receivers) :
    insertAll insert calls entries = ⟨calls.entries ++ entries.toArray⟩ := by
  induction entries generalizing calls with
  | nil => simp [insertAll]
  | cons entry entries ih =>
      rcases List.nodup_cons.mp distinct with ⟨isOther, restDistinct⟩
      have isPushed := insert_of_new (areNew entry List.mem_cons_self) entry.2
      have areNewLater : ∀ later ∈ entries,
          later.1 ∉ (calls.insert entry.1 entry.2).receivers := by
        intro later isLater
        rw [isPushed, receivers, Array.toList_push, List.map_append, List.mem_append, not_or]
        refine ⟨areNew later (List.mem_cons_of_mem entry isLater), ?_⟩
        intro isEntry
        rw [List.map_singleton, List.mem_singleton] at isEntry
        exact isOther (isEntry ▸ List.mem_map_of_mem isLater)
      have isLater := ih restDistinct areNewLater
      rw [insertAll, List.foldl_cons]
      rw [insertAll, isPushed] at isLater
      rw [isPushed, isLater]
      simp

theorem insertAll_empty {calls : ReceiverCalls} (distinct : calls.receivers.Nodup) :
    insertAll insert empty calls.entries.toList = calls := by
  rw [insertAll_of_new distinct]
  · simp [empty]
  · simp [empty, receivers]

theorem indexOf?_getElem {calls : ReceiverCalls} (distinct : calls.receivers.Nodup) {place : Nat}
    (isPlace : place < calls.entries.size) :
    calls.indexOf? calls.entries[place].1 = some place := by
  rw [indexOf?, Array.findIdx?_eq_some_iff_getElem]
  refine ⟨isPlace, by simp, ?_⟩
  intro earlier isEarlier
  have differs := List.pairwise_iff_getElem.mp distinct earlier place
    (by simp [receivers]; omega) (by simpa [receivers] using isPlace) isEarlier
  simpa [receivers] using differs

/-- Collections with the same receivers in the same order hold the same just if they are equal. -/
theorem sameEntries_iff_eq {left right : ReceiverCalls} (distinct : right.receivers.Nodup)
    (sameOrder : left.receivers = right.receivers) : left.sameEntries right ↔ left = right := by
  have sameSize : left.entries.size = right.entries.size := by
    simpa [receivers] using congrArg List.length sameOrder
  have sameReceiver : ∀ place (isLeft : place < left.entries.size)
      (isRight : place < right.entries.size),
      left.entries[place].1 = right.entries[place].1 := by
    intro place isLeft isRight
    have := List.getElem_of_eq sameOrder (i := place) (by simpa [receivers] using isLeft)
    simpa [receivers] using this
  constructor
  · intro same
    simp only [sameEntries, Bool.and_eq_true, Array.all_eq_true] at same
    rcases left with ⟨leftEntries⟩
    rcases right with ⟨rightEntries⟩
    simp only [mk.injEq]
    apply Array.ext sameSize
    intro place isLeft isRight
    have isSame := same.2 place isLeft
    rw [sameReceiver place isLeft isRight, indexOf?_getElem distinct isRight] at isSame
    apply Prod.ext (sameReceiver place isLeft isRight)
    symm
    simpa [isRight] using isSame
  · rintro rfl
    simp only [sameEntries, beq_self_eq_true, Bool.true_and, Array.all_eq_true]
    intro place isPlace
    rw [indexOf?_getElem distinct isPlace]
    simp [isPlace]

end ReceiverCalls

/-! ## Stored facts -/

/-- The lines of a declaration have 64 bits. -/
structure Declaration.Stored (declaration : Declaration) : Prop where
  startLine : declaration.startLine < UInt64.size
  endLine : declaration.endLine < UInt64.size

/-- The line and the count of a call have 64 bits. -/
structure Call.Stored (call : Call) : Prop where
  startLine : call.startLine < UInt64.size
  argumentCount : call.argumentCount < UInt64.size

/-- Facts whose numbers have 64 bits and whose receivers are distinct. -/
structure Facts.Stored (facts : Facts) : Prop where
  declarations : ∀ declaration ∈ facts.declarations, declaration.Stored
  calls : ∀ call ∈ facts.calls, call.Stored
  distinct : facts.receivers.receivers.Nodup

theorem le_greatestSignificand_iff {number : Nat} :
    number ≤ greatestSignificand ↔ number < UInt64.size := by
  have isSize : UInt64.size = greatestSignificand + 1 := rfl
  omega

theorem readsAs_word {number : Nat} (fits : number < UInt64.size) :
    ReadsAs readNatural (.number number) number :=
  readsAs_readNatural (le_greatestSignificand_iff.mpr fits)

theorem yields_word : Yields readNatural (· < UInt64.size) := by
  intro limit cursor later number isRead
  exact le_greatestSignificand_iff.mp (yields_readNatural isRead)

/-! ## Reading back -/

theorem readsAs_texts (texts : List String) :
    ReadsAs (readList readText) (textsToJson texts) texts.toArray :=
  readsAs_readList fun text _ => readsAs_readText text

theorem readsAs_declaration {declaration : Declaration} (stored : declaration.Stored) :
    ReadsAs (readRecord declarationShape) declaration.toJson declaration := by
  apply readsAs_readRecord ⟨declaration.name, declaration.startLine, declaration.endLine,
    declaration.variableNames.toArray⟩
  · refine .cons rfl rfl ((readsAs_readText declaration.name).map _) ?_
    refine .cons rfl rfl ((readsAs_word stored.startLine).map _) ?_
    refine .cons rfl rfl ((readsAs_word stored.endLine).map _) ?_
    exact .cons rfl rfl ((readsAs_texts declaration.variableNames).map _) (.nil _)
  · rfl

theorem readsAs_call {call : Call} (stored : call.Stored) :
    ReadsAs (readRecord callShape) call.toJson call := by
  apply readsAs_readRecord ⟨call.name, call.startLine, call.argumentCount,
    call.argumentTexts.toArray⟩
  · refine .cons rfl rfl ((readsAs_readText call.name).map _) ?_
    refine .cons rfl rfl ((readsAs_word stored.startLine).map _) ?_
    refine .cons rfl rfl ((readsAs_word stored.argumentCount).map _) ?_
    exact .cons rfl rfl ((readsAs_texts call.argumentTexts).map _) (.nil _)
  · rfl

theorem readsAs_declarations {declarations : Array Declaration}
    (stored : ∀ declaration ∈ declarations, declaration.Stored) :
    ReadsAs readDeclarations (declarationsToJson declarations) declarations :=
  readsAs_readList fun declaration isThere => readsAs_declaration (stored declaration isThere)

theorem readsAs_calls {calls : Array Call} (stored : ∀ call ∈ calls, call.Stored) :
    ReadsAs readCalls (callsToJson calls) calls :=
  readsAs_readList fun call isThere => readsAs_call (stored call isThere)

theorem readsAs_receivers {receivers : ReceiverCalls} (distinct : receivers.receivers.Nodup) :
    ReadsAs readReceivers receivers.toJson receivers := by
  have reads : ReadsAs readReceivers receivers.toJson
      (insertAll ReceiverCalls.insert .empty receivers.entries.toList) :=
    readsAs_readMap (fun names : Array String => textsToJson names.toList) fun entry _ =>
      readsAs_texts entry.2.toList
  rwa [ReceiverCalls.insertAll_empty distinct] at reads

theorem readsAs_facts {facts : Facts} (stored : facts.Stored) :
    ReadsAs (readRecord factsShape) facts.toJson facts := by
  apply readsAs_readRecord ⟨facts.declarations, facts.calls, facts.receivers⟩
  · refine .cons rfl rfl ((readsAs_declarations stored.declarations).map _) ?_
    refine .cons rfl rfl ((readsAs_calls stored.calls).map _) ?_
    exact .cons rfl rfl ((readsAs_receivers stored.distinct).map _) (.nil _)
  · rfl

theorem Facts.ofJson_compact {facts : Facts} (stored : facts.Stored) :
    Facts.ofJson facts.toJson.compact = .ok facts := by
  have isRead := readAll_of_readsAs (readsAs_facts stored) facts.toJson.spells_compact "" .nil
  rwa [String.append_empty] at isRead

/-! ## What facts are read -/

theorem exists_of_needed {α β : Type} {name : String} {value : Option α}
    {next : α → Except String β} {result : β} (isMade : (needed name value >>= next) = .ok result) :
    ∃ found, value = some found ∧ next found = .ok result := by
  cases value with
  | none => cases isMade
  | some found => exact ⟨found, rfl, isMade⟩

/-- The lines of a declaration, as far as they have been read, have 64 bits. -/
structure DeclarationDraft.Stored (draft : DeclarationDraft) : Prop where
  startLine : ∀ line, draft.startLine = some line → line < UInt64.size
  endLine : ∀ line, draft.endLine = some line → line < UInt64.size

theorem yields_declaration : Yields (readRecord declarationShape) Declaration.Stored := by
  refine yields_readRecord DeclarationDraft.Stored ?_ ?_ ?_
  · exact ⟨by simp [declarationShape], by simp [declarationShape]⟩
  · intro field isField draft stored
    simp only [declarationShape, List.mem_cons, List.not_mem_nil, or_false] at isField
    rcases isField with rfl | rfl | rfl | rfl
    · exact .after fun _ => .pure ⟨stored.startLine, stored.endLine⟩
    · exact yields_word.bind fun line fits => .pure ⟨by simpa using fits, stored.endLine⟩
    · exact yields_word.bind fun line fits => .pure ⟨stored.startLine, by simpa using fits⟩
    · exact .after fun _ => .pure ⟨stored.startLine, stored.endLine⟩
  · intro draft declaration stored isMade
    rcases exists_of_needed isMade with ⟨name, -, isMade⟩
    rcases exists_of_needed isMade with ⟨startLine, isStart, isMade⟩
    rcases exists_of_needed isMade with ⟨endLine, isEnd, isMade⟩
    rcases exists_of_needed isMade with ⟨variableNames, -, isMade⟩
    cases isMade
    exact ⟨stored.startLine startLine isStart, stored.endLine endLine isEnd⟩

/-- The line and the count of a call, as far as they have been read, have 64 bits. -/
structure CallDraft.Stored (draft : CallDraft) : Prop where
  startLine : ∀ line, draft.startLine = some line → line < UInt64.size
  argumentCount : ∀ count, draft.argumentCount = some count → count < UInt64.size

theorem yields_call : Yields (readRecord callShape) Call.Stored := by
  refine yields_readRecord CallDraft.Stored ?_ ?_ ?_
  · exact ⟨by simp [callShape], by simp [callShape]⟩
  · intro field isField draft stored
    simp only [callShape, List.mem_cons, List.not_mem_nil, or_false] at isField
    rcases isField with rfl | rfl | rfl | rfl
    · exact .after fun _ => .pure ⟨stored.startLine, stored.argumentCount⟩
    · exact yields_word.bind fun line fits => .pure ⟨by simpa using fits, stored.argumentCount⟩
    · exact yields_word.bind fun count fits => .pure ⟨stored.startLine, by simpa using fits⟩
    · exact .after fun _ => .pure ⟨stored.startLine, stored.argumentCount⟩
  · intro draft call stored isMade
    rcases exists_of_needed isMade with ⟨name, -, isMade⟩
    rcases exists_of_needed isMade with ⟨startLine, isStart, isMade⟩
    rcases exists_of_needed isMade with ⟨argumentCount, isCount, isMade⟩
    rcases exists_of_needed isMade with ⟨argumentTexts, -, isMade⟩
    cases isMade
    exact ⟨stored.startLine startLine isStart, stored.argumentCount argumentCount isCount⟩

theorem yields_receivers : Yields readReceivers fun receivers => receivers.receivers.Nodup := by
  apply yields_readMap
  · simp [ReceiverCalls.empty, ReceiverCalls.receivers]
  · intro receivers receiver names distinct
    exact ReceiverCalls.nodup_receivers_insert distinct receiver names

/-- Facts are stored ones, as far as they have been read. -/
structure FactsDraft.Stored (draft : FactsDraft) : Prop where
  declarations : ∀ declarations, draft.declarations = some declarations →
    ∀ declaration ∈ declarations, declaration.Stored
  calls : ∀ calls, draft.calls = some calls → ∀ call ∈ calls, call.Stored
  distinct : ∀ receivers, draft.receivers = some receivers → receivers.receivers.Nodup

theorem yields_facts : Yields (readRecord factsShape) Facts.Stored := by
  refine yields_readRecord FactsDraft.Stored ?_ ?_ ?_
  · exact ⟨by simp [factsShape], by simp [factsShape], by simp [factsShape]⟩
  · intro field isField draft stored
    simp only [factsShape, List.mem_cons, List.not_mem_nil, or_false] at isField
    rcases isField with rfl | rfl | rfl
    · refine (yields_readList yields_declaration).bind fun declarations areStored => ?_
      exact .pure ⟨by simpa using areStored, stored.calls, stored.distinct⟩
    · refine (yields_readList yields_call).bind fun calls areStored => ?_
      exact .pure ⟨stored.declarations, by simpa using areStored, stored.distinct⟩
    · refine yields_receivers.bind fun receivers distinct => ?_
      exact .pure ⟨stored.declarations, stored.calls, by simpa using distinct⟩
  · intro draft facts stored isMade
    rcases exists_of_needed isMade with ⟨declarations, areDeclarations, isMade⟩
    rcases exists_of_needed isMade with ⟨calls, areCalls, isMade⟩
    rcases exists_of_needed isMade with ⟨receivers, areReceivers, isMade⟩
    cases isMade
    exact {
      declarations := stored.declarations declarations areDeclarations
      calls := stored.calls calls areCalls
      distinct := stored.distinct receivers areReceivers }

theorem Facts.stored_of_ofJson {text : String} {facts : Facts}
    (isRead : Facts.ofJson text = .ok facts) : facts.Stored :=
  holds_of_readAll yields_facts isRead

/-! ## The normal form -/

theorem Facts.same_iff_eq {facts others : Facts} (distinct : others.receivers.receivers.Nodup)
    (sameOrder : facts.receivers.receivers = others.receivers.receivers) :
    facts.same others ↔ facts = others := by
  rw [Facts.same, Bool.and_eq_true, Bool.and_eq_true, beq_iff_eq, beq_iff_eq,
    ReceiverCalls.sameEntries_iff_eq distinct sameOrder, Facts.mk.injEq, and_assoc]

/-- Stored facts that are written alike are equal. -/
theorem Facts.eq_of_compact_eq {facts others : Facts} (stored : facts.Stored)
    (otherStored : others.Stored) (isSame : facts.toJson.compact = others.toJson.compact) :
    facts = others := by
  have isRead := Facts.ofJson_compact stored
  rw [isSame, Facts.ofJson_compact otherStored] at isRead
  exact (Except.ok.inj isRead).symm

/-- Stored facts are read back from their written form. Facts that are read from any text are read
back, too. Two texts from which facts are read have the same written form just if they hold the same
facts with the receivers in the same order. -/
theorem Facts.compact_is_normal_form :
    (∀ facts : Facts, facts.Stored → Facts.ofJson facts.toJson.compact = .ok facts) ∧
      (∀ text facts, Facts.ofJson text = .ok facts →
        Facts.ofJson facts.toJson.compact = .ok facts) ∧
      ∀ text facts otherText others,
        Facts.ofJson text = .ok facts → Facts.ofJson otherText = .ok others →
          (facts.toJson.compact = others.toJson.compact ↔
            facts.same others ∧ facts.receivers.receivers = others.receivers.receivers) := by
  refine ⟨fun facts => Facts.ofJson_compact, fun text facts isRead => ?_, ?_⟩
  · exact Facts.ofJson_compact (Facts.stored_of_ofJson isRead)
  · intro text facts otherText others isRead isOtherRead
    have stored := Facts.stored_of_ofJson isRead
    have otherStored := Facts.stored_of_ofJson isOtherRead
    constructor
    · intro isSame
      have isEqual := Facts.eq_of_compact_eq stored otherStored isSame
      subst isEqual
      exact ⟨(Facts.same_iff_eq stored.distinct rfl).mpr rfl, rfl⟩
    · rintro ⟨areSame, sameOrder⟩
      rw [(Facts.same_iff_eq otherStored.distinct sameOrder).mp areSame]

namespace Facts.RepeatedReceiver

/-- A call as a list, fields in another order, a field that nobody asks for and a receiver twice. -/
def text : String :=
  "\x7b\"receiver_calls\":\x7b\"x\":[\"f\"],\"y\":[],\"x\":[\"g\"]\x7d,\"note\":[null,-1],\n" ++
    "\"signatures\":[[\"g\",1,0,[]]],\"declarations\":[]\x7d"

/-- The same facts with the receivers in the other order. -/
def otherText : String :=
  "\x7b\"declarations\":[],\"signatures\":[[\"g\",1,0,[]]]," ++
    "\"receiver_calls\":\x7b\"y\":[],\"x\":[\"g\"]\x7d\x7d"

def facts : Facts := ⟨#[], #[⟨"g", 1, 0, []⟩], ⟨#[("x", #["g"]), ("y", #[])]⟩⟩

def others : Facts := ⟨#[], #[⟨"g", 1, 0, []⟩], ⟨#[("y", #[]), ("x", #["g"])]⟩⟩

theorem compact_is_normal_form_repeatedReceiver :
    Facts.ofJson text = .ok facts ∧ Facts.ofJson otherText = .ok others ∧ facts.Stored ∧
      Facts.ofJson facts.toJson.compact = .ok facts ∧ facts.same others ∧
      facts.toJson.compact ≠ others.toJson.compact := by
  have isRead : Facts.ofJson text = .ok facts :=
    InOrder.toOption_eq_some_iff.mp (by decide +kernel)
  have isOtherRead : Facts.ofJson otherText = .ok others :=
    InOrder.toOption_eq_some_iff.mp (by decide +kernel)
  have stored : facts.Stored := by
    refine ⟨?_, ?_, by decide⟩
    · simp [facts]
    · intro call isCall
      obtain rfl : call = ⟨"g", 1, 0, []⟩ := by simpa [facts] using isCall
      exact ⟨by decide, by decide⟩
  obtain ⟨readsBack, -, isSameIff⟩ := compact_is_normal_form
  refine ⟨isRead, isOtherRead, stored, readsBack facts stored, by decide +kernel, ?_⟩
  rw [Ne, isSameIff text facts otherText others isRead isOtherRead]
  decide +kernel

end Facts.RepeatedReceiver

end JavaFacts
