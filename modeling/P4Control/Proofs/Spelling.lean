import P4Control.Settings.Written

namespace P4Control.Toml

/-!
# What is written is read again

A number, a text in quotes and a key are each read the way they are written, up to the first character
that cannot be a part of them.

* `digitsValue_writeNatural`, `writeNatural_zero` — the digits of a number, without superfluous zeros.
* `readValue_writeNatural` — a number on a line of its own.
* `readBasic_writeBasic`, `readLiteral_writeLiteral` — text in quotes of either kind.
* `readPart_writeKey` — a key, in whichever style it is written.
-/

/-! ### Digits -/

theorem isDigit_iff {c : Char} : isDigit c = true ↔ 48 ≤ c.toNat ∧ c.toNat ≤ 57 := by
  simp [isDigit, Char.le_def, UInt32.le_iff_toNat_le]

theorem hexValue?_of_isDigit {c : Char} (h : isDigit c = true) :
    hexValue? c = some (c.toNat - 48) := by
  unfold isDigit at h
  unfold hexValue?
  rw [if_pos (by simpa using h)]

theorem isDigitOf_of_isDigit {c : Char} (h : isDigit c = true) : isDigitOf 10 c = true := by
  unfold isDigitOf
  rw [hexValue?_of_isDigit h]
  have hc := (isDigit_iff.mp h).2
  simp only [decide_eq_true_eq]
  omega

/-- The digits of a number are decimal ones. -/
theorem isDigit_of_mem_writeNatural {n : Nat} {c : Char} (h : c ∈ writeNatural n) :
    isDigit c = true := by
  have hd := Nat.isDigit_of_mem_toDigits (by decide) (by decide) h
  exact isDigit_iff.mpr (Char.isDigit_iff_toNat.mp hd)

/-- A number has digits. -/
theorem writeNatural_eq_cons (n : Nat) : ∃ c ds, writeNatural n = c :: ds := by
  cases h : writeNatural n with
  | nil =>
    unfold writeNatural at h
    rw [Nat.toDigits_eq_if (by decide)] at h
    split at h <;> simp at h
  | cons c ds => exact ⟨c, ds, rfl⟩

/-- Only the number zero begins with the digit zero. -/
theorem writeNatural_zero {n : Nat} {ds : List Char} (h : writeNatural n = '0' :: ds) :
    n = 0 ∧ ds = [] := by
  induction n using Nat.strongRecOn generalizing ds with
  | _ n ih =>
    unfold writeNatural at h
    rw [Nat.toDigits_eq_if (by decide)] at h
    split at h
    · next hn =>
      obtain ⟨hc, rfl⟩ := List.cons.inj h
      have small : ∀ m < 10, Nat.digitChar m = '0' → m = 0 := by decide
      exact ⟨small n hn hc, rfl⟩
    · next hn =>
      -- all digits but the last are those of the number without its last digit
      obtain ⟨c, front, hfront⟩ := writeNatural_eq_cons (n / 10)
      unfold writeNatural at hfront
      rw [hfront, List.cons_append] at h
      obtain ⟨rfl, -⟩ := List.cons.inj h
      have hzero := (ih (n / 10) (by omega) hfront).1
      omega

/-- The digits of a number spell it. -/
theorem digitsValue_writeNatural (n : Nat) : digitsValue 10 (writeNatural n) = n := by
  have spells : ∀ (digits : List Char) (start : Nat), (∀ c ∈ digits, isDigit c = true) →
      digits.foldl (fun acc c => 10 * acc + (hexValue? c).getD 0) start
        = Nat.ofDigitChars 10 digits start := by
    intro digits
    induction digits with
    | nil => intros; rfl
    | cons c rest ih =>
      intro start h
      rw [List.foldl_cons, hexValue?_of_isDigit (h c (by simp)),
        ih _ fun d hd => h d (List.mem_cons_of_mem _ hd)]
      rfl
  exact (spells _ 0 fun c hc => isDigit_of_mem_writeNatural hc).trans
    (Nat.ofDigitChars_toDigits (by decide) (by decide))

/-! ### Numbers on a line of their own -/

theorem moreDigits_append {digits : List Char} (h : ∀ c ∈ digits, isDigit c = true)
    (rest : List Char) : moreDigits 10 (digits ++ '\n' :: rest) = (digits, '\n' :: rest) := by
  induction digits with
  | nil => rfl
  | cons c ds ih =>
    have hc := h c (by simp)
    have hne : c ≠ '_' := by rintro rfl; exact absurd hc (by decide)
    rw [List.cons_append, moreDigits]
    · rw [if_pos (isDigitOf_of_isDigit hc), ih fun d hd => h d (List.mem_cons_of_mem _ hd)]
    · rintro d r rfl
      exact absurd rfl hne

theorem readDigits_append {c : Char} {ds : List Char} (h : ∀ d ∈ c :: ds, isDigit d = true)
    (rest : List Char) : readDigits 10 (c :: ds ++ '\n' :: rest) = some (c :: ds, '\n' :: rest) := by
  rw [List.cons_append, readDigits, if_pos (isDigitOf_of_isDigit (h c (by simp))),
    moreDigits_append fun d hd => h d (List.mem_cons_of_mem _ hd)]

/-- A number is read up to the end of its line, as its digits. -/
theorem readWhole_writeNatural (n : Nat) (rest : List Char) :
    readWhole (writeNatural n ++ '\n' :: rest) = some (writeNatural n, '\n' :: rest) := by
  obtain ⟨c, ds, h⟩ := writeNatural_eq_cons n
  have hall : ∀ d ∈ c :: ds, isDigit d = true := fun d hd =>
    isDigit_of_mem_writeNatural (n := n) (by rw [h]; exact hd)
  by_cases hc : c = '0'
  · subst hc
    obtain ⟨-, rfl⟩ := writeNatural_zero h
    rw [h]
    rfl
  · rw [h, ← readDigits_append hall rest]
    unfold readWhole
    split
    · next heq => exact absurd (List.cons.inj heq).1 hc
    · rfl

theorem readSign_of_digit {c : Char} (h : isDigit c = true) (s : List Char) :
    readSign (c :: s) = (false, c :: s) := by
  unfold readSign
  split
  · next heq => obtain ⟨rfl, -⟩ := List.cons.inj heq; exact absurd h (by decide)
  · next heq => obtain ⟨rfl, -⟩ := List.cons.inj heq; exact absurd h (by decide)
  · rfl

/-- Digits up to the end of a line are no real number. -/
theorem readReal_writeNatural (n : Nat) (rest : List Char) :
    readReal (writeNatural n ++ '\n' :: rest) = none := by
  obtain ⟨c, ds, h⟩ := writeNatural_eq_cons n
  have hc : isDigit c = true := isDigit_of_mem_writeNatural (n := n) (by rw [h]; simp)
  have hw := readWhole_writeNatural n rest
  rw [h, List.cons_append] at hw ⊢
  unfold readReal
  rw [readSign_of_digit hc]
  dsimp only
  rw [hw]
  rfl

/-- Digits up to the end of a line are neither a date nor a time of day. -/
theorem readMoment_digits {digits : List Char} (h : ∀ c ∈ digits, isDigit c = true)
    (rest : List Char) : readMoment (digits ++ '\n' :: rest) = none := by
  -- whatever number of digits is read, no separator can follow them
  have fixed : ∀ (width : Nat) (separator : Char), isDigit separator = false → separator ≠ '\n' →
      ∀ value r, readFixed width (digits ++ '\n' :: rest) = some (value, r) →
        expect separator r = none := by
    intro width separator hsep hne value r hr
    unfold readFixed at hr
    dsimp only at hr
    split at hr
    · next hd =>
      cases hr
      have hle : width ≤ digits.length := by
        rcases Nat.lt_or_ge digits.length width with hlt | hle
        · -- the end of the line would be among what was read
          obtain ⟨k, hk⟩ : ∃ k, width - digits.length = k + 1 := ⟨width - digits.length - 1, by omega⟩
          have hmem : '\n' ∈ (digits ++ '\n' :: rest).take width := by
            rw [List.take_append, hk, List.take_succ_cons]
            simp
          exact absurd (List.all_eq_true.mp hd.2 _ hmem) (by decide)
        · exact hle
      rw [List.drop_append_of_le_length hle]
      cases hdrop : digits.drop width with
      | nil => simp [expect, Ne.symm hne]
      | cons c ds =>
        have hc : isDigit c = true := h c (List.mem_of_mem_drop (hdrop ▸ List.mem_cons_self))
        have : c ≠ separator := by rintro rfl; rw [hc] at hsep; cases hsep
        simp [expect, this]
    · cases hr
  have date : readDate (digits ++ '\n' :: rest) = none := by
    unfold readDate
    cases hr : readFixed 4 (digits ++ '\n' :: rest) with
    | none => rfl
    | some p => simp [fixed 4 '-' (by decide) (by decide) p.1 p.2 hr]
  have time : readTime (digits ++ '\n' :: rest) = none := by
    unfold readTime readPair
    cases hr : readFixed 2 (digits ++ '\n' :: rest) with
    | none => rfl
    | some p =>
      have hnone := fixed 2 ':' (by decide) (by decide) p.1 p.2 hr
      simp only [Option.bind_eq_bind, Option.bind_some]
      split
      · simp [hnone]
      · rfl
  unfold readMoment
  rw [date, time]

theorem integerOf?_of_lt {n : Nat} (hn : (n : Int) < integerBound) :
    integerOf? false n = some (n : Int) := by
  have hbound : (0 : Int) ≤ integerBound := by decide
  have hlow : -integerBound ≤ (n : Int) := by omega
  simp [integerOf?, hlow, hn]

/-- Digits without a superfluous zero have no prefix of another base. -/
theorem readInteger_of_digits {c : Char} {ds : List Char} (hz : c = '0' → ds = [])
    (hc : isDigit c = true) (rest : List Char) :
    readInteger (c :: (ds ++ '\n' :: rest)) =
      (readWhole (c :: (ds ++ '\n' :: rest))).bind fun p =>
        (integerOf? false (digitsValue 10 p.1)).bind fun n => some (n, p.2) := by
  unfold readInteger
  split
  · next heq => obtain ⟨rfl, heq⟩ := List.cons.inj heq; rw [hz rfl] at heq; cases heq
  · next heq => obtain ⟨rfl, heq⟩ := List.cons.inj heq; rw [hz rfl] at heq; cases heq
  · next heq => obtain ⟨rfl, heq⟩ := List.cons.inj heq; rw [hz rfl] at heq; cases heq
  · rw [readSign_of_digit hc]
    rfl

/-- A number that fits a document is read as the integer that it is. -/
theorem readInteger_writeNatural {n : Nat} (hn : (n : Int) < integerBound) (rest : List Char) :
    readInteger (writeNatural n ++ '\n' :: rest) = some ((n : Int), '\n' :: rest) := by
  obtain ⟨c, ds, h⟩ := writeNatural_eq_cons n
  have hc : isDigit c = true := isDigit_of_mem_writeNatural (n := n) (by rw [h]; simp)
  have hz : c = '0' → ds = [] := by
    rintro rfl
    exact (writeNatural_zero h).2
  have hvalue : digitsValue 10 (c :: ds) = n := by rw [← h, digitsValue_writeNatural]
  have hw := readWhole_writeNatural n rest
  rw [h, List.cons_append] at hw ⊢
  rw [readInteger_of_digits hz hc, hw, Option.bind_some, hvalue, integerOf?_of_lt hn, Option.bind_some]

/-- A number that fits a document is read as a value on a line of its own. -/
theorem readValue_writeNatural {n : Nat} (hn : (n : Int) < integerBound) (rest : List Char) :
    readValue (writeNatural n ++ '\n' :: rest) = some (.integer n, '\n' :: rest) := by
  obtain ⟨c, ds, h⟩ := writeNatural_eq_cons n
  have hc : isDigit c = true := isDigit_of_mem_writeNatural (n := n) (by rw [h]; simp)
  have hne : ∀ d, isDigit d = false → c ≠ d := by rintro d hd rfl; rw [hc] at hd; cases hd
  have numeral : readNumeral (writeNatural n ++ '\n' :: rest) = some (.integer n, '\n' :: rest) := by
    unfold readNumeral
    rw [readMoment_digits (fun c hc => isDigit_of_mem_writeNatural hc), readReal_writeNatural,
      readInteger_writeNatural hn]
    rfl
  rw [h, List.cons_append] at numeral ⊢
  show readValueWithin (78 + 1) _ = _
  unfold readValueWithin
  split
  · next heq => exact absurd (List.cons.inj heq).1 (hne _ (by decide))
  · next heq => exact absurd (List.cons.inj heq).1 (hne _ (by decide))
  · unfold readScalar
    dsimp only
    rw [if_neg (by simp [hne '"' (by decide), hne '\'' (by decide)]), if_neg (hne 't' (by decide)),
      if_neg (hne 'f' (by decide)), numeral]

/-! ### Text in quotes -/

/-- A character that is written by its number is one of the controls. -/
theorem toNat_lt_of_control {c : Char} (h : isPlain c = false) : c.toNat < 128 := by
  simp only [isPlain, Bool.or_eq_false_iff, decide_eq_false_iff_not, Bool.and_eq_false_iff,
    bne_eq_false_iff_eq] at h
  omega

theorem charOfHex?_hexDigit : ∀ n < 128,
    charOfHex? ['0', '0', hexDigit (n / 16 % 16), hexDigit (n % 16)] = some (Char.ofNat n) := by
  decide

theorem unletter?_of_letter? {c l : Char} (h : letter? c = some l) :
    unletter? l = some c ∧ l ≠ 'u' ∧ l ≠ 'U' := by
  unfold letter? at h
  split at h <;> cases h <;> exact ⟨rfl, by decide, by decide⟩

theorem ne_of_letter?_eq_none {c : Char} (h : letter? c = none) : c ≠ '"' ∧ c ≠ '\\' := by
  constructor
  · rintro rfl; cases h
  · rintro rfl; cases h

/-- An escaped character stands for itself, and what comes behind it is left. -/
theorem unescape_escape (c : Char) (rest : List Char) :
    unescape false (escape c ++ rest) = (unescape false rest).map (c :: ·) := by
  unfold escape
  cases hl : letter? c with
  | some l =>
    obtain ⟨hun, hu, hU⟩ := unletter?_of_letter? hl
    simp only [List.cons_append, List.nil_append]
    rw [unescape.eq_5 _ _ _ (fun _ _ _ _ _ h => absurd h hu) fun _ _ _ _ _ _ _ _ _ h => absurd h hU,
      hun]
    rfl
  | none =>
    obtain ⟨-, hbackslash⟩ := ne_of_letter?_eq_none hl
    dsimp only
    split
    · next hp =>
      rw [List.singleton_append, unescape]
      · simp [hp]
      · exact hbackslash
    · next hp =>
      have hhex := charOfHex?_hexDigit c.toNat (toNat_lt_of_control (by simpa using hp))
      simp only [List.cons_append, List.nil_append]
      rw [unescape, hhex, Char.ofNat_toNat]
      rfl

theorem unescape_flatMap_escape (text : List Char) :
    unescape false (text.flatMap escape) = some text := by
  induction text with
  | nil => rfl
  | cons c rest ih =>
    rw [List.flatMap_cons, unescape_escape, ih]
    rfl

/-- The quote that ends a text is none of those that an escaped character contains. -/
theorem splitBasic_escape (c : Char) (s : List Char) :
    splitBasic (escape c ++ s) = (splitBasic s).map fun p => (escape c ++ p.1, p.2) := by
  unfold escape
  cases hl : letter? c with
  | some l => simp [splitBasic]
  | none =>
    obtain ⟨hquote, hbackslash⟩ := ne_of_letter?_eq_none hl
    dsimp only
    split
    · rw [List.singleton_append, splitBasic]
      · rfl
      · exact hquote
      · rintro d r hd -
        exact hbackslash hd
    · have hexDigit_ne : ∀ n < 16, hexDigit n ≠ '"' ∧ hexDigit n ≠ '\\' := by decide
      obtain ⟨h1, h1'⟩ := hexDigit_ne (c.toNat / 16 % 16) (by omega)
      obtain ⟨h2, h2'⟩ := hexDigit_ne (c.toNat % 16) (by omega)
      simp [splitBasic, h1', h2', Function.comp_def]

theorem splitBasic_flatMap_escape (text rest : List Char) :
    splitBasic (text.flatMap escape ++ '"' :: rest) = some (text.flatMap escape, rest) := by
  induction text with
  | nil => rfl
  | cons c text ih =>
    rw [List.flatMap_cons, List.append_assoc, splitBasic_escape, ih]
    rfl

/-- Text between double quotes is read again. -/
theorem readBasic_writeBasic (text rest : List Char) :
    readBasic (text.flatMap escape ++ '"' :: rest) = some (text, rest) := by
  unfold readBasic
  rw [splitBasic_flatMap_escape]
  simp [unescape_flatMap_escape]

/-- Text between single quotes is read again, if they can hold it. -/
theorem readLiteral_writeLiteral {text : List Char} (hp : text.all isPlain = true)
    (hq : '\'' ∉ text) (rest : List Char) :
    readLiteral (text ++ '\'' :: rest) = some (text, rest) := by
  have split : splitLiteral (text ++ '\'' :: rest) = some (text, rest) := by
    clear hp
    induction text with
    | nil => rfl
    | cons c text ih =>
      rw [List.cons_append, splitLiteral, ih fun h => hq (List.mem_cons_of_mem _ h)]
      · rfl
      · rintro rfl
        exact hq List.mem_cons_self
  unfold readLiteral
  rw [split]
  exact if_pos hp

/-! ### Keys -/

/-- Bare characters are read up to the first one that is not bare. -/
theorem readPart_bare {key : List Char} (hne : key ≠ []) (hb : ∀ c ∈ key, isBare c = true)
    {d : Char} (hd : isBare d = false) (rest : List Char) :
    readPart (key ++ d :: rest) = some (String.ofList key, d :: rest) := by
  obtain ⟨c, cs, rfl⟩ := List.exists_cons_of_ne_nil hne
  have hc := hb c (by simp)
  have htake : (c :: cs ++ d :: rest).takeWhile isBare = c :: cs := by
    rw [List.takeWhile_append_of_pos hb, List.takeWhile_cons_of_neg (by simp [hd]), List.append_nil]
  have hdrop : (c :: cs ++ d :: rest).dropWhile isBare = d :: rest := by
    rw [List.dropWhile_append_of_pos hb, List.dropWhile_cons_of_neg (by simp [hd])]
  rw [List.cons_append] at htake hdrop ⊢
  rw [readPart]
  · rw [htake, hdrop]
    rfl
  · rintro r heq
    obtain ⟨rfl, -⟩ := List.cons.inj heq
    exact absurd hc (by decide)
  · rintro r heq
    obtain ⟨rfl, -⟩ := List.cons.inj heq
    exact absurd hc (by decide)

/-- A key is read in whichever style it is written, up to a character that cannot be a part of it. -/
theorem readPart_writeKey (key : String) {d : Char} (hd : isBare d = false) (rest : List Char) :
    readPart (writeKey key ++ d :: rest) = some (key, d :: rest) := by
  have hkey : String.ofList key.toList = key := String.ofList_toList
  unfold writeKey
  dsimp only
  split
  · next h =>
    simp only [Bool.and_eq_true, Bool.not_eq_true', List.isEmpty_eq_false_iff, List.all_eq_true] at h
    rw [readPart_bare h.1 h.2 hd, hkey]
  · split
    · next h =>
      simp only [Bool.and_eq_true, Bool.not_eq_true'] at h
      have hread := readLiteral_writeLiteral h.1.1 (by simpa using h.2) (d :: rest)
      simp only [writeLiteral, List.cons_append, List.append_assoc, List.nil_append]
      simp [readPart, hread, hkey]
    · simp only [writeBasic, List.cons_append, List.append_assoc, List.nil_append]
      simp [readPart, readBasic_writeBasic, hkey]

/-- No key begins with a blank. -/
theorem skipBlanks_writeKey (key : String) (rest : List Char) :
    skipBlanks (writeKey key ++ rest) = writeKey key ++ rest := by
  have first : ∃ c cs, writeKey key = c :: cs ∧ isBlank c = false := by
    unfold writeKey
    dsimp only
    split
    · next h =>
      simp only [Bool.and_eq_true, Bool.not_eq_true', List.isEmpty_eq_false_iff, List.all_eq_true] at h
      obtain ⟨c, cs, hcs⟩ := List.exists_cons_of_ne_nil h.1
      refine ⟨c, cs, hcs, ?_⟩
      have hc : isBare c = true := h.2 c (by rw [hcs]; exact List.mem_cons_self)
      have hspace : c ≠ ' ' := by rintro rfl; exact absurd hc (by decide)
      have htab : c ≠ '\t' := by rintro rfl; exact absurd hc (by decide)
      simp [isBlank, hspace, htab]
    · split
      · exact ⟨_, _, rfl, by decide⟩
      · exact ⟨_, _, rfl, by decide⟩
  obtain ⟨c, cs, h, hc⟩ := first
  rw [h, List.cons_append]
  unfold skipBlanks
  rw [List.dropWhile_cons_of_neg (by simp [hc])]

end P4Control.Toml
