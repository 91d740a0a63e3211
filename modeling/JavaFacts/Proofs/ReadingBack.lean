import JavaFacts.Proofs.Spelling

/-!
# Reading back what is written

Every spelling of a value is read back by the reader of its type: texts and natural numbers, lists
and maps if their elements are read back, and records if their fields are. A reader leaves what
comes after the spelling. Nothing after it can be taken for a part of it, since a value is followed
by a blank, a comma, a closing bracket or the end of the text.
-/

namespace JavaFacts.Json

variable {α β : Type} {limit : Nat} {text rest : List Char}

/-! ## Texts -/

/-- How a character can be written in a text. -/
inductive Escapes (character : Char) : List Char → Prop
  | letter {letter : Char} (isOther : letter ≠ 'u') (isEscaped : escaped? letter = some character) :
      Escapes character ['\\', letter]
  | numbered {first second third fourth : Char}
      (isNumber : fourDigits? [first, second, third, fourth] = some character.toNat)
      (isControl : character.toNat < 0x20) :
      Escapes character ['\\', 'u', first, second, third, fourth]
  | plain (notQuote : character ≠ '\"') (notBackslash : character ≠ '\\')
      (notControl : 0x20 ≤ character.toNat) : Escapes character [character]

theorem fourDigits?_one {number : Nat} (isSmall : number < 0x10) :
    fourDigits? ['0', '0', '0', number.digitChar] = some number := by
  have all : ∀ number < 0x10, fourDigits? ['0', '0', '0', number.digitChar] = some number := by
    decide
  exact all number isSmall

theorem fourDigits?_two {number : Nat} (isSmall : number < 0x20) (isLarge : 0x10 ≤ number) :
    Nat.toDigits 16 number = ['1', (number - 0x10).digitChar] ∧
      fourDigits? ['0', '0', '1', (number - 0x10).digitChar] = some number := by
  have all : ∀ number < 0x20, 0x10 ≤ number →
      Nat.toDigits 16 number = ['1', (number - 0x10).digitChar] ∧
        fourDigits? ['0', '0', '1', (number - 0x10).digitChar] = some number := by
    decide
  exact all number isSmall isLarge

theorem escapes_escape (character : Char) : Escapes character (escape character).toList := by
  unfold escape
  split
  case h_8 notQuote notBackslash _ _ _ _ _ =>
    split
    · next isSmall =>
      rw [Nat.toDigits_of_lt_base (by omega)]
      simpa using Escapes.numbered (fourDigits?_one isSmall) (by omega)
    · next isLarge =>
      split
      · next isSmall =>
        rcases fourDigits?_two isSmall (by omega) with ⟨isDigits, isNumber⟩
        rw [isDigits]
        simpa using Escapes.numbered isNumber isSmall
      · next notControl =>
        simpa using Escapes.plain notQuote notBackslash (by omega)
  all_goals exact .letter (by decide) rfl

theorem reads_readFourDigits {number : Nat} (isNumber : fourDigits? text = some number) :
    Reads readFourDigits limit text number (text.drop 4) := by
  refine reads_get fun position => ⟨⟨position.line, position.column + 4⟩, ?_⟩
  simp only [isNumber]
  rfl

theorem reads_readNumbered {number : Nat} (isNumber : fourDigits? text = some number)
    (isControl : number < 0x20) :
    Reads readNumbered limit text (Char.ofNat number) (text.drop 4) := by
  have notTrailing : isTrailingSurrogate number = false := by
    simp [isTrailingSurrogate]
    omega
  have notLeading : isLeadingSurrogate number = false := by
    simp [isLeadingSurrogate]
    omega
  refine (reads_readFourDigits isNumber).bind ?_
  rw [notTrailing, notLeading]
  exact .pure _

theorem reads_readEscape {character : Char} {escaped : List Char}
    (escapes : Escapes character ('\\' :: escaped)) :
    Reads readEscape limit (escaped ++ rest) character rest := by
  cases escapes with
  | letter isOther isEscaped =>
      refine reads_peek.bind ?_
      simp only [List.cons_append, List.nil_append, List.head?_cons, isEscaped]
      exact reads_advance.bind (.pure character)
  | @numbered first second third fourth isNumber isControl =>
      have isNumberHere : fourDigits? ([first, second, third, fourth] ++ rest) =
          some character.toNat := isNumber
      refine reads_peek.bind (reads_advance.bind ?_)
      rw [← Char.ofNat_toNat character]
      exact reads_readNumbered isNumberHere isControl
  | plain notQuote notBackslash notControl => exact absurd rfl notBackslash

/-- A character that is written in a text is read as the next one. -/
theorem reads_escape (character : Char) {fuel : Nat} {content result : String} {later : List Char}
    (reads : Reads (readCharacters fuel (content.push character)) limit rest result later) :
    Reads (readCharacters (fuel + 1) content) limit ((escape character).toList ++ rest) result
      later := by
  have escapes := escapes_escape character
  generalize (escape character).toList = escaped at escapes ⊢
  cases escapes with
  | letter isOther isEscaped =>
      have escapes : Escapes character ['\\', _] := .letter isOther isEscaped
      exact reads_peek.bind (reads_advance.bind ((reads_readEscape escapes).bind reads))
  | numbered isNumber isControl =>
      have escapes : Escapes character ['\\', 'u', _, _, _, _] := .numbered isNumber isControl
      exact reads_peek.bind (reads_advance.bind ((reads_readEscape escapes).bind reads))
  | plain notQuote notBackslash notControl =>
      refine reads_peek.bind ?_
      simp only [List.cons_append, List.nil_append, List.head?_cons, Nat.not_lt.mpr notControl,
        if_false]
      exact reads_advance.bind reads

theorem length_escape_pos (character : Char) : 0 < (escape character).toList.length := by
  have escapes := escapes_escape character
  generalize (escape character).toList = escaped at escapes ⊢
  cases escapes with
  | letter isOther isEscaped => simp
  | numbered isNumber isControl => simp
  | plain notQuote notBackslash notControl => simp

theorem escapeAll_cons (character : Char) (characters : List Char) :
    escapeAll (character :: characters) = (escape character).toList ++ escapeAll characters :=
  List.flatMap_cons

theorem reads_readCharacters (characters : List Char) {fuel : Nat} {content : String}
    (enough : (escapeAll characters).length < fuel) :
    Reads (readCharacters fuel content) limit (escapeAll characters ++ '\"' :: rest)
      (content ++ String.ofList characters) rest := by
  induction characters generalizing fuel content with
  | nil =>
      rcases fuel with _ | fuel
      · simp at enough
      · rw [String.ofList_nil, String.append_empty]
        exact reads_peek.bind (reads_advance.bind (.pure content))
  | cons character characters ih =>
      rcases fuel with _ | fuel
      · simp at enough
      · have isPositive := length_escape_pos character
        rw [escapeAll_cons, List.length_append] at enough
        have isContent : content ++ String.ofList (character :: characters) =
            content.push character ++ String.ofList characters := by
          simp [← String.toList_inj]
        rw [isContent, escapeAll_cons, List.append_assoc]
        exact reads_escape character (ih (by omega))

theorem reads_readQuoted {content : String} (fits : (escapeAll content.toList).length < limit) :
    Reads readQuoted limit (escapeAll content.toList ++ '\"' :: rest) content rest := by
  refine reads_limit.bind ?_
  have reads : Reads (readCharacters limit "") limit _ _ rest :=
    reads_readCharacters content.toList fits
  rwa [String.ofList_toList, String.empty_append] at reads

/-! ## Numbers -/

/-- What follows a value cannot be taken for a part of it. -/
def Ends : List Char → Prop
  | [] => True
  | next :: _ => Cursor.isBlank next ∨ next = ',' ∨ next = ']' ∨ next = '\x7d'

theorem Ends.of_blanks {blanks : List Char} (areBlank : AreBlank blanks) (ends : Ends rest) :
    Ends (blanks ++ rest) := by
  cases blanks with
  | nil => exact ends
  | cons blank blanks => exact Or.inl (areBlank blank List.mem_cons_self)

theorem Ends.head?_ne (ends : Ends rest) :
    rest.head? ≠ some '.' ∧ rest.head? ≠ some 'e' ∧ rest.head? ≠ some 'E' := by
  cases rest with
  | nil => simp
  | cons next rest =>
      refine ⟨?_, ?_, ?_⟩
      all_goals
        intro isNext
        cases isNext
        simp [Ends, Cursor.isBlank] at ends

theorem Ends.not_isDigit {next : Char} (ends : Ends (next :: rest)) : next.isDigit = false := by
  rw [← Bool.not_eq_true]
  intro isDigit
  rcases ends with isBlank | rfl | rfl | rfl
  · simp [isBlank_of_isDigit isDigit] at isBlank
  · simp at isDigit
  · simp at isDigit
  · simp at isDigit

theorem Ends.takeWhile_isDigit (ends : Ends rest) : rest.takeWhile Char.isDigit = [] := by
  cases rest with
  | nil => rfl
  | cons next rest => exact List.takeWhile_cons_of_neg (by simp [ends.not_isDigit])

theorem Ends.dropWhile_isDigit (ends : Ends rest) : rest.dropWhile Char.isDigit = rest := by
  cases rest with
  | nil => rfl
  | cons next rest => exact List.dropWhile_cons_of_neg (by simp [ends.not_isDigit])

theorem reads_readAfterInteger (ends : Ends rest) (significand : Nat) :
    Reads (readAfterInteger true significand 0) limit rest (.natural significand) rest := by
  refine reads_peek.bind ?_
  rcases ends.head?_ne with ⟨notPoint, notSmall, notLarge⟩
  split
  · next isPoint => exact absurd isPoint notPoint
  · next isSmall => exact absurd isSmall notSmall
  · next isLarge => exact absurd isLarge notLarge
  · exact .pure _

theorem le_ofDigitChars (digits : List Char) (significand : Nat) :
    significand ≤ Nat.ofDigitChars 10 digits significand := by
  rw [Nat.ofDigitChars_eq_ofDigitChars_zero]
  have isPositive : 0 < 10 ^ digits.length := Nat.pow_pos (by decide)
  have := Nat.le_mul_of_pos_left significand isPositive
  omega

/-- Digits are taken up to the last one if their number fits. -/
theorem absorb_eq {digits : List Char} {significand : Nat}
    (fits : Nat.ofDigitChars 10 digits significand ≤ greatestSignificand) (taken : Nat) :
    absorb significand digits taken =
      (Nat.ofDigitChars 10 digits significand, taken + digits.length) := by
  induction digits generalizing significand taken with
  | nil => simp [absorb]
  | cons digit digits ih =>
      rw [Nat.ofDigitChars_cons, Nat.mul_comm] at fits ⊢
      have isLess := Nat.le_trans (le_ofDigitChars digits _) fits
      rw [absorb, digitValue, if_neg (Nat.not_lt.mpr isLess), ih fits, List.length_cons]
      simp only [Prod.mk.injEq, true_and]
      omega

theorem head_toDigits_ne_zero {number : Nat} (isPositive : 0 < number) :
    (Nat.toDigits 10 number).head? ≠ some '0' := by
  induction number using Nat.strongRecOn with
  | ind number ih =>
      rcases Nat.lt_or_ge number 10 with isSmall | isLarge
      · rw [Nat.toDigits_of_lt_base isSmall]
        simp
        omega
      · have notZero := ih (number / 10) (by omega) (by omega)
        rw [Nat.toDigits_of_base_le (by decide) isLarge]
        rcases isDigits : Nat.toDigits 10 (number / 10) with _ | ⟨first, later⟩
        · exact absurd isDigits Nat.toDigits_ne_nil
        · rwa [isDigits] at notZero

theorem reads_readUnsigned {number : Nat} (fits : number ≤ greatestSignificand)
    (ends : Ends rest) :
    Reads (readUnsigned true) limit (Nat.toDigits 10 number ++ rest) (.natural number) rest := by
  rcases Nat.eq_zero_or_pos number with rfl | isPositive
  · rw [Nat.toDigits_zero, List.singleton_append]
    refine reads_peek.bind (reads_advance.bind (reads_peek.bind ?_))
    cases rest with
    | nil => exact reads_readAfterInteger ends 0
    | cons next rest =>
        simp only [List.head?_cons, ends.not_isDigit]
        exact reads_readAfterInteger ends 0
  · have areDigits : ∀ digit ∈ Nat.toDigits 10 number, digit.isDigit := by
      intro digit isThere
      exact Nat.isDigit_of_mem_toDigits (by decide) (by decide) isThere
    have isTaken : (Nat.toDigits 10 number ++ rest).takeWhile Char.isDigit =
        Nat.toDigits 10 number := by
      rw [List.takeWhile_append_of_pos areDigits, ends.takeWhile_isDigit, List.append_nil]
    have isLeft : (Nat.toDigits 10 number ++ rest).dropWhile Char.isDigit = rest := by
      rw [List.dropWhile_append_of_pos areDigits, ends.dropWhile_isDigit]
    rcases exists_first_digit number with ⟨first, later, isDigits, isDigit⟩
    have notZero : first ≠ '0' := by
      have := head_toDigits_ne_zero isPositive
      simpa [isDigits] using this
    have reads : Reads readDigits limit (Nat.toDigits 10 number ++ rest) _ _ := reads_readDigits
    rw [isTaken, isLeft] at reads
    refine reads_peek.bind ?_
    rw [isDigits, List.cons_append, List.head?_cons]
    simp only [isDigit, if_true]
    rw [← List.cons_append, ← isDigits]
    refine reads.bind ?_
    rw [absorb_eq (by rwa [Nat.ofDigitChars_ten_toDigits]), Nat.ofDigitChars_ten_toDigits]
    simpa using reads_readAfterInteger ends number

theorem reads_readNumber {number : Nat} (fits : number ≤ greatestSignificand)
    (ends : Ends rest) :
    Reads readNumber limit (Nat.toDigits 10 number ++ rest) (.natural number) rest := by
  refine reads_peek.bind ?_
  split
  · next isSign =>
    rcases exists_first_digit number with ⟨first, later, isDigits, isDigit⟩
    rw [isDigits] at isSign
    cases isSign
    simp at isDigit
  · exact reads_readUnsigned fits ends

/-! ## Values -/

/-- A reader reads every spelling of a value with a result. -/
def ReadsAs (reader : Reader α) (value : Value) (result : α) : Prop :=
  ∀ ⦃limit : Nat⦄ ⦃blanks text rest : List Char⦄, AreBlank blanks → Spells value text → Ends rest →
    (blanks ++ (text ++ rest)).length < limit →
      Reads reader limit (blanks ++ (text ++ rest)) result rest

theorem readsAs_readText (content : String) : ReadsAs readText (.text content) content := by
  intro limit blanks text rest areBlank spelled ends fits
  cases spelled
  simp only [toList_quote, List.length_append, List.length_cons] at fits
  rw [toList_quote, List.cons_append, List.append_assoc, List.singleton_append]
  refine (reads_pastBlanks areBlank rfl).bind (reads_advance.bind ?_)
  exact reads_readQuoted (by omega)

theorem readsAs_readNatural {number : Nat} (isSmall : number ≤ greatestSignificand) :
    ReadsAs readNatural (.number number) number := by
  intro limit blanks text rest areBlank spelled ends fits
  cases spelled
  rcases exists_first_digit number with ⟨first, later, isDigits, isDigit⟩
  rw [Nat.toString_eq_repr, Nat.toList_repr]
  have reads : Reads readNumber limit (Nat.toDigits 10 number ++ rest) _ _ :=
    reads_readNumber isSmall ends
  rw [isDigits, List.cons_append] at reads ⊢
  refine (reads_pastBlanks areBlank (isBlank_of_isDigit isDigit)).bind ?_
  simp only [isDigit, Bool.or_true, if_true]
  exact reads.bind (.pure number)

theorem ReadsAs.map {reader : Reader α} {value : Value} {result : α}
    (reads : ReadsAs reader value result) (change : α → β) :
    ReadsAs (do return change (← reader)) value (change result) := by
  intro limit blanks text rest areBlank spelled ends fits
  exact (reads areBlank spelled ends fits).map change

/-- A value that can be left out is read if it is there. -/
theorem readsAs_readOptional {reader : Reader α} {value : Value} {result : α}
    (reads : ReadsAs reader value result) (isGiven : value ≠ .null) :
    ReadsAs (readOptional reader) value (some result) := by
  intro limit blanks text rest areBlank spelled ends fits
  rcases spelled.exists_first with ⟨first, later, rfl, notBlank, -, isNull⟩
  refine (reads_pastBlanks areBlank notBlank).bind ?_
  have notNull : some first ≠ some 'n' := by
    intro isSame
    exact isGiven (isNull (Option.some.inj isSame))
  split
  · next isSame => exact absurd isSame notNull
  · have fitsHere : ([] ++ (first :: later ++ rest)).length < limit := by
      simp only [List.length_append, List.length_nil] at fits ⊢
      omega
    exact (reads .nil spelled ends fitsHere).map some

/-! ## Lists -/

theorem reads_nextElement_end {first : Bool} {blanks : List Char} (areBlank : AreBlank blanks) :
    Reads (nextElement first) limit (blanks ++ ']' :: rest) false (']' :: rest) :=
  (reads_pastBlanks areBlank rfl).bind (.pure false)

theorem reads_nextElement {first : Bool} {separator : List Char}
    (separates : Separates first separator) {next : Char} (notBlank : Cursor.isBlank next = false)
    (notEnd : next ≠ ']') :
    Reads (nextElement first) limit (separator ++ next :: rest) true (next :: rest) := by
  cases separates with
  | start areBlank =>
      refine (reads_pastBlanks areBlank notBlank).bind ?_
      simp only [if_true]
      exact .pure true
  | comma areBlankBefore areBlankAfter =>
      rw [List.append_assoc, List.cons_append]
      refine (reads_pastBlanks areBlankBefore rfl).bind (reads_advance.bind ?_)
      refine (reads_pastBlanks areBlankAfter notBlank).bind ?_
      simp only
      exact .pure true

theorem SpellsElements.ends {elements : List Value} (spelled : SpellsElements false elements text) :
    Ends (text ++ ']' :: rest) := by
  cases spelled with
  | done areBlank => exact .of_blanks areBlank (by simp [Ends])
  | next separates spelled later =>
      cases separates with
      | comma areBlankBefore areBlankAfter =>
          simp only [List.append_assoc]
          exact .of_blanks areBlankBefore (by simp [Ends])

theorem reads_readElements {element : Reader α} {write : α → Value} {items : List α}
    (readsItem : ∀ item ∈ items, ReadsAs element (write item) item) {first : Bool}
    (spelled : SpellsElements first (items.map write) text) {fuel : Nat}
    (enough : text.length < fuel) (fits : (text ++ ']' :: rest).length < limit)
    (collected : Array α) :
    Reads (readElements element fuel first collected) limit (text ++ ']' :: rest)
      (collected ++ items.toArray) (']' :: rest) := by
  induction items generalizing first text fuel collected with
  | nil =>
      rcases fuel with _ | fuel
      · simp at enough
      · cases spelled with
        | done areBlank =>
            refine (reads_nextElement_end areBlank).bind ?_
            simpa using Reads.pure collected
  | cons item items ih =>
      rcases fuel with _ | fuel
      · simp at enough
      · cases spelled with
        | @next _ separator itemText later _ _ separates isSpelled spelledLater =>
            rcases isSpelled.exists_first with ⟨next, after, rfl, notBlank, notEnd, -⟩
            simp only [List.length_append, List.length_cons] at enough fits
            have readsHere : Reads element limit ([] ++ (next :: after ++ (later ++ ']' :: rest)))
                item (later ++ ']' :: rest) := by
              apply readsItem item List.mem_cons_self .nil isSpelled spelledLater.ends
              simp only [List.length_append, List.length_cons, List.length_nil]
              omega
            have readsLater : Reads (readElements element fuel false (collected.push item)) limit
                (later ++ ']' :: rest) (collected.push item ++ items.toArray) (']' :: rest) := by
              apply ih _ spelledLater
              · omega
              · simp only [List.length_append, List.length_cons]
                omega
              · intro other isThere
                exact readsItem other (List.mem_cons_of_mem item isThere)
            simp only [List.append_assoc, List.cons_append, List.nil_append] at readsHere ⊢
            refine (reads_nextElement separates notBlank notEnd).bind ?_
            simp only [if_true]
            refine readsHere.bind ?_
            simpa using readsLater

theorem readsAs_readList {element : Reader α} {write : α → Value} {items : Array α}
    (readsItem : ∀ item ∈ items, ReadsAs element (write item) item) :
    ReadsAs (readList element) (.list (items.toList.map write)) items := by
  intro limit blanks text rest areBlank spelled ends fits
  cases spelled with
  | @list _ inner spelled =>
      simp only [List.length_append, List.length_cons] at fits
      have readsInner : Reads (readElements element limit true #[]) limit (inner ++ ']' :: rest)
          (#[] ++ items.toList.toArray) (']' :: rest) := by
        apply reads_readElements _ spelled
        · omega
        · simp only [List.length_append, List.length_cons]
          omega
        · simpa using readsItem
      simp only [List.cons_append, List.append_assoc, List.nil_append]
      refine (reads_pastBlanks areBlank rfl).bind (reads_advance.bind (reads_limit.bind ?_))
      refine readsInner.bind ?_
      refine ((reads_pastBlanks .nil rfl).bind reads_advance).bind ?_
      simpa using Reads.pure items

/-! ## Maps -/

theorem reads_nextKey_end {first : Bool} {blanks : List Char} (areBlank : AreBlank blanks) :
    Reads (nextKey first) limit (blanks ++ '\x7d' :: rest) false ('\x7d' :: rest) :=
  (reads_pastBlanks areBlank rfl).bind (.pure false)

theorem reads_nextKey {first : Bool} {separator : List Char}
    (separates : Separates first separator) :
    Reads (nextKey first) limit (separator ++ '\"' :: rest) true ('\"' :: rest) := by
  cases separates with
  | start areBlank => exact (reads_pastBlanks areBlank rfl).bind (.pure true)
  | comma areBlankBefore areBlankAfter =>
      rw [List.append_assoc, List.cons_append]
      refine (reads_pastBlanks areBlankBefore rfl).bind (reads_advance.bind ?_)
      exact (reads_pastBlanks areBlankAfter rfl).bind (.pure true)

theorem reads_readColon {blanks : List Char} (areBlank : AreBlank blanks) :
    Reads readColon limit (blanks ++ ':' :: rest) () rest :=
  (reads_pastBlanks areBlank rfl).bind reads_advance

theorem SpellsFields.ends {fields : List (String × Value)}
    (spelled : SpellsFields false fields text) : Ends (text ++ '\x7d' :: rest) := by
  cases spelled with
  | done areBlank => exact .of_blanks areBlank (by simp [Ends])
  | next name separates areBlankBefore areBlankAfter spelled later =>
      cases separates with
      | comma areBlankBefore areBlankAfter =>
          simp only [List.append_assoc]
          exact .of_blanks areBlankBefore (by simp [Ends])

/-- Inserts entries into a collection one after another. -/
def insertAll {σ : Type} (insert : σ → String → α → σ) (collected : σ)
    (entries : List (String × α)) : σ :=
  entries.foldl (fun collected entry => insert collected entry.1 entry.2) collected

theorem reads_readEntries {σ : Type} {insert : σ → String → α → σ} {value : Reader α}
    {write : α → Value} {entries : List (String × α)}
    (readsEntry : ∀ entry ∈ entries, ReadsAs value (write entry.2) entry.2) {first : Bool}
    (spelled : SpellsFields first (entries.map fun entry => (entry.1, write entry.2)) text)
    {fuel : Nat} (enough : text.length < fuel) (fits : (text ++ '\x7d' :: rest).length < limit)
    (collected : σ) :
    Reads (readEntries insert value fuel first collected) limit (text ++ '\x7d' :: rest)
      (insertAll insert collected entries) ('\x7d' :: rest) := by
  induction entries generalizing first text fuel collected with
  | nil =>
      rcases fuel with _ | fuel
      · simp at enough
      · cases spelled with
        | done areBlank => exact (reads_nextKey_end areBlank).bind (.pure collected)
  | cons entry entries ih =>
      rcases fuel with _ | fuel
      · simp at enough
      · cases spelled with
        | @next _ separator before after valueText later _ _ _ separates areBlankBefore
            areBlankAfter isSpelled spelledLater =>
            simp only [toList_quote, List.length_append, List.length_cons] at enough fits
            have readsHere : Reads value limit (after ++ (valueText ++ (later ++ '\x7d' :: rest)))
                entry.2 (later ++ '\x7d' :: rest) := by
              apply readsEntry entry List.mem_cons_self areBlankAfter isSpelled spelledLater.ends
              simp only [List.length_append, List.length_cons]
              omega
            have readsLater : Reads (readEntries insert value fuel false
                (insert collected entry.1 entry.2)) limit (later ++ '\x7d' :: rest)
                (insertAll insert collected (entry :: entries)) ('\x7d' :: rest) := by
              apply ih _ spelledLater
              · omega
              · simp only [List.length_append, List.length_cons]
                omega
              · intro other isThere
                exact readsEntry other (List.mem_cons_of_mem entry isThere)
            simp only [toList_quote, List.append_assoc, List.cons_append, List.nil_append]
            refine (reads_nextKey separates).bind (reads_advance.bind ?_)
            refine (reads_readQuoted (by omega)).bind ((reads_readColon areBlankBefore).bind ?_)
            exact readsHere.bind readsLater

/-- A map is read by inserting its entries one after another. -/
theorem readsAs_readMap {σ : Type} {empty : σ} {insert : σ → String → α → σ} {value : Reader α}
    (write : α → Value) {entries : List (String × α)}
    (readsEntry : ∀ entry ∈ entries, ReadsAs value (write entry.2) entry.2) :
    ReadsAs (readMap empty insert value)
      (.object (entries.map fun entry => (entry.1, write entry.2)))
      (insertAll insert empty entries) := by
  intro limit blanks text rest areBlank spelled ends fits
  cases spelled with
  | @object _ inner spelled =>
      simp only [List.length_append, List.length_cons] at fits
      have readsInner : Reads (readEntries insert value limit true empty) limit
          (inner ++ '\x7d' :: rest) (insertAll insert empty entries) ('\x7d' :: rest) := by
        apply reads_readEntries readsEntry spelled
        · omega
        · simp only [List.length_append, List.length_cons]
          omega
      simp only [List.cons_append, List.append_assoc, List.nil_append]
      refine (reads_pastBlanks areBlank rfl).bind (reads_advance.bind (reads_limit.bind ?_))
      refine readsInner.bind ?_
      exact ((reads_pastBlanks .nil rfl).bind reads_advance).bind (.pure _)

/-! ## Records -/

/-- Reading the values of fields one after another leads from a draft to another one. -/
inductive Fills {Draft Record : Type} (shape : Shape Draft Record) :
    Draft → List (String × Value) → Draft → Prop
  | nil (draft : Draft) : Fills shape draft [] draft
  | cons {draft next final : Draft} {name : String} {value : Value} {field : Field Draft}
      {fields : List (String × Value)}
      (isField : shape.fields.find? (·.name == name) = some field)
      (isOpen : field.isSet draft = false) (reads : ReadsAs (field.read draft) value next)
      (later : Fills shape next fields final) : Fills shape draft ((name, value) :: fields) final

theorem Fills.append {Draft Record : Type} {shape : Shape Draft Record} {draft next final : Draft}
    {fields others : List (String × Value)} (fills : Fills shape draft fields next)
    (later : Fills shape next others final) : Fills shape draft (fields ++ others) final := by
  induction fills with
  | nil draft => exact later
  | cons isField isOpen reads _ ih => exact .cons isField isOpen reads (ih later)

theorem reads_readObjectFields {Draft Record : Type} {shape : Shape Draft Record}
    {draft final : Draft} {fields : List (String × Value)} (fills : Fills shape draft fields final)
    {first : Bool} (spelled : SpellsFields first fields text) {fuel : Nat}
    (enough : text.length < fuel) (fits : (text ++ '\x7d' :: rest).length < limit) :
    Reads (shape.readObjectFields fuel first draft) limit (text ++ '\x7d' :: rest)
      (shape.record final) ('\x7d' :: rest) := by
  induction fills generalizing first text fuel with
  | nil draft =>
      rcases fuel with _ | fuel
      · simp at enough
      · cases spelled with
        | done areBlank => exact (reads_nextKey_end areBlank).bind (.pure _)
  | @cons draft next final name value field fields isField isOpen reads _ ih =>
      rcases fuel with _ | fuel
      · simp at enough
      · cases spelled with
        | @next _ separator before after valueText later _ _ _ separates areBlankBefore
            areBlankAfter isSpelled spelledLater =>
            simp only [toList_quote, List.length_append, List.length_cons] at enough fits
            have readsHere : Reads (field.read draft) limit
                (after ++ (valueText ++ (later ++ '\x7d' :: rest))) next
                (later ++ '\x7d' :: rest) := by
              apply reads areBlankAfter isSpelled spelledLater.ends
              simp only [List.length_append, List.length_cons]
              omega
            have readsLater : Reads (shape.readObjectFields fuel false next) limit
                (later ++ '\x7d' :: rest) (shape.record final) ('\x7d' :: rest) := by
              apply ih spelledLater
              · omega
              · simp only [List.length_append, List.length_cons]
                omega
            simp only [toList_quote, List.append_assoc, List.cons_append, List.nil_append]
            refine (reads_nextKey separates).bind (reads_advance.bind ?_)
            refine (reads_readQuoted (by omega)).bind ?_
            simp only [isField, isOpen]
            exact (reads_readColon areBlankBefore).bind (readsHere.bind readsLater)

/-- A record is read back if its fields fill a draft of it. -/
theorem readsAs_readRecord {Draft Record : Type} {shape : Shape Draft Record} (final : Draft)
    {fields : List (String × Value)} {record : Record}
    (fills : Fills shape shape.start fields final) (isRecord : shape.finish final = .ok record) :
    ReadsAs (readRecord shape) (.object fields) record := by
  intro limit blanks text rest areBlank spelled ends fits
  cases spelled with
  | @object _ inner spelled =>
      simp only [List.length_append, List.length_cons] at fits
      have readsInner : Reads (shape.readObjectFields limit true shape.start) limit
          (inner ++ '\x7d' :: rest) (.ok record) ('\x7d' :: rest) := by
        have isRecorded : shape.record final = .ok record := by rw [Shape.record, isRecord]
        rw [← isRecorded]
        apply reads_readObjectFields fills spelled
        · omega
        · simp only [List.length_append, List.length_cons]
          omega
      simp only [List.cons_append, List.append_assoc, List.nil_append]
      refine (reads_pastBlanks areBlank rfl).bind (reads_advance.bind (reads_limit.bind ?_))
      refine readsInner.bind ?_
      exact ((reads_pastBlanks .nil rfl).bind reads_advance).bind (.pure record)

/-! ## Whole texts -/

/-- A spelling and blanks after it are read as a whole. -/
theorem readAll_of_readsAs {reader : Reader α} {value : Value} {result : α}
    (reads : ReadsAs reader value result) {spelling : String}
    (spelled : Spells value spelling.toList) (trailing : String)
    (areBlank : AreBlank trailing.toList) :
    readAll reader (spelling ++ trailing) = .ok result := by
  have ends : Ends trailing.toList := by
    rw [← List.append_nil trailing.toList]
    exact .of_blanks areBlank trivial
  apply readAll_of_reads _ areBlank
  rw [String.toList_append]
  apply reads .nil spelled ends
  simp [← String.length_toList]

end JavaFacts.Json
