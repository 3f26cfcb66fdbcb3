import P4Control.Proofs.Layering
import P4Control.Proofs.Spelling

namespace P4Control

/-!
# Written settings are documents

The settings in writing are a document, and what the document says are the settings as data.

* `Toml.Says` — what the lines of a text say, whatever follows them.
* `Toml.Focus` — where the entries of a table go that is under construction.
* `Overrides.numbers`, `Settings.numbers` — the numbers of which settings consist.
* `Settings.writtenIn?` — the settings in writing, with the sections of the devices in any order.
* `Settings.parse_writtenIn` — what the document says.
-/

namespace Toml

/-! ### Lines and what they say -/

/-- What so many lines say, whatever follows them. -/
structure Says (text : List Char) (lines : Nat) (items : List Item) : Prop where
  length : lines ≤ text.length
  reads : ∀ fuel rest tail, readItemsWithin fuel rest = some tail →
    readItemsWithin (fuel + lines) (text ++ rest) = some (items ++ tail)

/-- No text says nothing. -/
theorem says_nil : Says [] 0 [] := ⟨Nat.le_refl _, fun _ _ _ h => h⟩

/-- Texts one after the other say what both say. -/
theorem Says.append {s t : List Char} {m n : Nat} {is js : List Item} (hs : Says s m is)
    (ht : Says t n js) : Says (s ++ t) (m + n) (is ++ js) := by
  refine ⟨?_, fun fuel rest tail h => ?_⟩
  · rw [List.length_append]
    exact Nat.add_le_add hs.length ht.length
  · rw [List.append_assoc, List.append_assoc, show fuel + (m + n) = fuel + n + m by omega]
    exact hs.reads _ _ _ (ht.reads _ _ _ h)

/-- An empty line says nothing. -/
theorem says_blank : Says ['\n'] 1 [] := ⟨Nat.le_refl _, fun _ _ _ h => h⟩

/-- An item that does not begin with a blank, a comment or the end of a line stands on a line of its
own. -/
theorem says_item {c : Char} (text : List Char) {item : Item} (hc : isBlank c = false)
    (hn : c ≠ '\n') (hr : c ≠ '\r') (hcomment : c ≠ '#')
    (h : ∀ rest, readItem (c :: text ++ rest) = some (item, rest)) : Says (c :: text) 1 [item] := by
  refine ⟨by simp, fun fuel rest tail ht => ?_⟩
  have hread := h rest
  rw [List.cons_append] at hread ⊢
  have hskip : skipBlanks (c :: (text ++ rest)) = c :: (text ++ rest) :=
    List.dropWhile_cons_of_neg (by simp [hc])
  rw [readItemsWithin, hskip]
  split
  · next heq => cases heq
  · next heq => exact absurd (List.cons.inj heq).1 hn
  · next heq => exact absurd (List.cons.inj heq).1 hr
  · next heq => exact absurd (List.cons.inj heq).1 hcomment
  · rw [hread]
    simp [ht]

/-- Lines are the whole text of a document. -/
theorem Says.readItems {text : List Char} {n : Nat} {items : List Item} (h : Says text n items)
    (hmark : text.head? ≠ some '\ufeff') : Toml.readItems text = some items := by
  have hlen := h.length
  have hend : readItemsWithin (text.length + 1 - n) [] = some [] := by
    obtain ⟨k, hk⟩ : ∃ k, text.length + 1 - n = k + 1 := ⟨text.length - n, by omega⟩
    rw [hk]
    rfl
  have hread := h.reads _ _ _ hend
  rw [List.append_nil, List.append_nil, show text.length + 1 - n + n = text.length + 1 by omega] at hread
  unfold Toml.readItems
  split
  · exact absurd rfl hmark
  · exact hread

/-! ### Headers and numbers -/

/-- A key of bare characters. -/
def IsBareKey (key : List Char) : Prop := key ≠ [] ∧ ∀ c ∈ key, isBare c = true

instance (key : List Char) : Decidable (IsBareKey key) :=
  decidable_of_iff (key ≠ [] ∧ key.all isBare = true) (and_congr Iff.rfl List.all_eq_true)

/-- A character of a bare key is not blank. -/
theorem isBlank_of_isBare {c : Char} (h : isBare c = true) : isBlank c = false := by
  have hspace : c ≠ ' ' := by rintro rfl; exact absurd h (by decide)
  have htab : c ≠ '\t' := by rintro rfl; exact absurd h (by decide)
  simp [isBlank, hspace, htab]

/-- A bare key begins with no blank. -/
theorem IsBareKey.skipBlanks {key : List Char} (h : IsBareKey key) (rest : List Char) :
    skipBlanks (key ++ rest) = key ++ rest := by
  obtain ⟨c, cs, rfl⟩ := List.exists_cons_of_ne_nil h.1
  rw [List.cons_append]
  exact List.dropWhile_cons_of_neg (by simp [isBlank_of_isBare (h.2 c (by simp))])

/-- A header that begins with a bare key is that of a table. -/
theorem IsBareKey.readHeader {key : List Char} (h : IsBareKey key) {path : Path} {rest tail : List Char}
    (hpath : readPath (key ++ rest) = some (path, ']' :: tail)) :
    readHeader (key ++ rest) = some (.table path, tail) := by
  unfold Toml.readHeader
  split
  · next heq =>
    obtain ⟨c, cs, rfl⟩ := List.exists_cons_of_ne_nil h.1
    obtain ⟨rfl, -⟩ := List.cons.inj heq
    exact absurd (h.2 '[' (by simp)) (by decide)
  · rw [hpath]
    rfl

/-- The header of a table whose name is a single bare key. -/
theorem says_table (key : List Char) (h : IsBareKey key) :
    Says ('[' :: (key ++ [']', '\n'])) 1 [.table [String.ofList key]] := by
  refine says_item (key ++ [']', '\n']) (by decide) (by decide) (by decide) (by decide) fun rest => ?_
  have hpath : readPath (key ++ ']' :: '\n' :: rest) =
      some ([String.ofList key], ']' :: '\n' :: rest) := by
    show readPathWithin (78 + 1) _ = _
    rw [readPathWithin, h.skipBlanks, readPart_bare h.1 h.2 (by decide)]
    rfl
  have hheader : readHeader (key ++ ']' :: '\n' :: rest) =
      some (.table [String.ofList key], '\n' :: rest) := h.readHeader hpath
  simp only [List.cons_append, List.append_assoc, List.nil_append]
  simp [readItem, hheader, readTrailer, skipBlanks, isBlank, readLineEnd]

/-- The header of a table within a table; the name of the outer one is a bare key. -/
theorem says_innerTable (outer : List Char) (h : IsBareKey outer) (key : String) :
    Says ('[' :: (outer ++ '.' :: (writeKey key ++ [']', '\n']))) 1
      [.table [String.ofList outer, key]] := by
  refine says_item (outer ++ '.' :: (writeKey key ++ [']', '\n'])) (by decide) (by decide) (by decide)
    (by decide) fun rest => ?_
  have hinner : readPathWithin 78 (writeKey key ++ ']' :: '\n' :: rest) =
      some ([key], ']' :: '\n' :: rest) := by
    rw [readPathWithin, skipBlanks_writeKey, readPart_writeKey key (by decide)]
    rfl
  have hpath : readPath (outer ++ '.' :: (writeKey key ++ ']' :: '\n' :: rest)) =
      some ([String.ofList outer, key], ']' :: '\n' :: rest) := by
    show readPathWithin (78 + 1) _ = _
    rw [readPathWithin, h.skipBlanks, readPart_bare h.1 h.2 (by decide)]
    simp [skipBlanks, isBlank, hinner]
  have hheader : readHeader (outer ++ '.' :: (writeKey key ++ ']' :: '\n' :: rest)) =
      some (.table [String.ofList outer, key], '\n' :: rest) := h.readHeader hpath
  simp only [List.cons_append, List.append_assoc, List.nil_append]
  simp [readItem, hheader, readTrailer, skipBlanks, isBlank, readLineEnd]

/-- A bare key with a number that fits the document. -/
theorem says_number {key : List Char} (h : IsBareKey key) {n : Nat} (hn : (n : Int) < integerBound) :
    Says (key ++ [' ', '=', ' '] ++ writeNatural n ++ ['\n']) 1
      [.entry [String.ofList key] (.integer n)] := by
  rw [List.append_assoc, List.append_assoc]
  obtain ⟨c, cs, rfl⟩ := List.exists_cons_of_ne_nil h.1
  have hc := h.2 c (by simp)
  have hne : ∀ d, isBare d = false → c ≠ d := by rintro d hd rfl; rw [hc] at hd; cases hd
  refine says_item (cs ++ ([' ', '=', ' '] ++ (writeNatural n ++ ['\n']))) (isBlank_of_isBare hc)
    (hne _ (by decide)) (hne _ (by decide)) (hne _ (by decide)) fun rest => ?_
  -- The reader goes through the key, the sign and the digits in turn, and then finds the line at its end.
  have hdigits : skipBlanks (' ' :: (writeNatural n ++ '\n' :: rest)) = writeNatural n ++ '\n' :: rest := by
    obtain ⟨d, ds, hd⟩ := writeNatural_eq_cons n
    have hdigit : isDigit d = true := isDigit_of_mem_writeNatural (n := n) (by rw [hd]; simp)
    have hblank : isBlank d = false := isBlank_of_isBare (by simp [isBare, hdigit])
    rw [hd, List.cons_append]
    unfold skipBlanks
    rw [List.dropWhile_cons_of_pos (by decide), List.dropWhile_cons_of_neg (by simp [hblank])]
  have hpath : readPath (c :: cs ++ ' ' :: '=' :: ' ' :: (writeNatural n ++ '\n' :: rest)) =
      some ([String.ofList (c :: cs)], '=' :: ' ' :: (writeNatural n ++ '\n' :: rest)) := by
    show readPathWithin (78 + 1) _ = _
    rw [readPathWithin, h.skipBlanks, readPart_bare h.1 h.2 (by decide)]
    rfl
  have hpair : readPairWith readValue (c :: cs ++ ' ' :: '=' :: ' ' :: (writeNatural n ++ '\n' :: rest)) =
      some (([String.ofList (c :: cs)], .integer n), '\n' :: rest) := by
    unfold readPairWith
    rw [hpath]
    simp only [Option.bind_eq_bind, Option.bind_some, expect, if_true]
    rw [hdigits, readValue_writeNatural hn]
    rfl
  rw [List.cons_append] at hpair
  simp only [List.cons_append, List.append_assoc, List.nil_append]
  unfold readItem
  split
  · next heq => exact absurd (List.cons.inj heq).1 (hne _ (by decide))
  · rw [hpair]
    simp [readTrailer, skipBlanks, isBlank, readLineEnd]

/-! ### Tables under construction -/

/-- The entries at a path of a draft are changed where they stand. -/
def Focus (path : Path) (put : Entries → Entries) : Prop :=
  ∀ change inner, descend change path (put inner) = (change inner).map put

/-- A new entry at the end is found. -/
theorem findIn_append_self {α : Type} {key : String} {l : List (String × α)} (h : key ∉ l.map (·.1))
    (a : α) : Directory.findIn key (l ++ [(key, a)]) = some a := by
  induction l with
  | nil => simp [Directory.findIn]
  | cons entry rest ih =>
    simp only [List.map_cons, List.mem_cons, not_or] at h
    rw [List.cons_append, Directory.findIn, if_neg (Ne.symm h.1), ih h.2]

/-- A new entry at the end is replaced where it stands. -/
theorem insertIn_append_self {α : Type} {key : String} {l : List (String × α)} (h : key ∉ l.map (·.1))
    (a b : α) : Directory.insertIn key b (l ++ [(key, a)]) = l ++ [(key, b)] := by
  induction l with
  | nil => simp [Directory.insertIn]
  | cons entry rest ih =>
    simp only [List.map_cons, List.mem_cons, not_or] at h
    rw [List.cons_append, Directory.insertIn, if_neg (Ne.symm h.1), ih h.2, List.cons_append]

/-- The last entry of a table is a table. -/
theorem focus_last {front : Entries} {key : String} {origin : Origin} (h : key ∉ front.map (·.1)) :
    Focus [key] fun inner => front ++ [(key, .table origin inner)] := by
  intro change inner
  rw [descend, findIn_append_self h]
  simp only [descend]
  exact congrArg (Option.map · _) (funext fun _ => insertIn_append_self h _ _)

/-- The last entry of a table is a table, and so is the last entry of that one. -/
theorem Focus.within {path : Path} {put : Entries → Entries} (hp : Focus path put) {front : Entries}
    {key : String} {origin : Origin} (h : key ∉ front.map (·.1)) :
    Focus (key :: path) fun inner => front ++ [(key, .table origin (put inner))] := by
  intro change inner
  rw [descend, findIn_append_self h]
  simp only [hp change inner, Option.map_map]
  exact congrArg (Option.map · _) (funext fun _ => insertIn_append_self h _ _)

/-- Entries with new keys come behind those that are there. -/
theorem foldlM_entries {path : Path} {put : Entries → Entries} (hp : Focus path put)
    (fields : Fields) (inner : Entries) (hn : (fields.map (·.1)).Nodup)
    (hnew : ∀ key ∈ fields.map (·.1), key ∉ inner.map (·.1)) :
    (fields.map fun f => Item.entry [f.1] f.2).foldlM Draft.add ⟨put inner, path⟩ =
      some ⟨put (inner ++ fields.map fun f => (f.1, .value f.2)), path⟩ := by
  induction fields generalizing inner with
  | nil => simp
  | cons f rest ih =>
    simp only [List.map_cons, List.nodup_cons] at hn
    have hf : f.1 ∉ inner.map (·.1) := hnew f.1 (by simp)
    -- the key is new, so the entry comes behind the others
    have hassign : assign f.2 [f.1] inner = some (inner ++ [(f.1, .value f.2)]) := by
      rw [assign, Directory.findIn_eq_none_iff _ _ |>.mpr hf, Directory.insertIn_of_not_mem hf]
      rfl
    have hadd : Draft.add ⟨put inner, path⟩ (.entry [f.1] f.2) =
        some ⟨put (inner ++ [(f.1, .value f.2)]), path⟩ := by
      simp only [Draft.add]
      rw [hp, hassign]
      rfl
    rw [List.map_cons, List.foldlM_cons, hadd]
    simp only [Option.bind_eq_bind, Option.bind_some]
    rw [ih _ hn.2]
    · simp
    · intro key hkey
      simp only [List.map_append, List.map_cons, List.map_nil, List.mem_append, List.mem_singleton, not_or]
      exact ⟨hnew key (List.mem_cons_of_mem _ hkey), fun h => hn.1 (h ▸ hkey)⟩

/-- Values are finished as they stand. -/
theorem finishEntries_values (fields : Fields) :
    Node.finishEntries (fields.map fun f => (f.1, .value f.2)) = fields := by
  induction fields with
  | nil => rfl
  | cons f rest ih =>
    rw [List.map_cons, Node.finishEntries, ih]
    rfl

end Toml

/-! ### The numbers of settings -/

/-- The numbers of the general settings. -/
def Defaults.numbers (defaults : Defaults) : List (Setting × UInt64) :=
  [(.shortTimeout, defaults.shortTimeout), (.longTimeout, defaults.longTimeout),
    (.queueCapacity, defaults.queueCapacity), (.eventCapacity, defaults.eventCapacity)]

/-- The numbers that a device overrides. -/
def Overrides.numbers (overrides : Overrides) : List (Setting × UInt64) :=
  (overrides.shortTimeout.map (Prod.mk .shortTimeout)).toList ++
    (overrides.longTimeout.map (Prod.mk .longTimeout)).toList ++
    (overrides.queueCapacity.map (Prod.mk .queueCapacity)).toList

namespace Settings

/-- All numbers of the settings. -/
def numbers (settings : Settings) : List UInt64 :=
  settings.defaults.numbers.map (·.2) ++
    settings.devices.entries.flatMap fun entry => entry.2.numbers.map (·.2)

/-- A number fits a document. -/
abbrev Fits (n : UInt64) : Prop := (n.toNat : Int) < Toml.integerBound

/-- The line of a number. -/
def numberLine (number : Setting × UInt64) : List Char :=
  number.1.name.toList ++ [' ', '=', ' '] ++ Toml.writeNatural number.2.toNat ++ ['\n']

/-- A number is written iff it fits, as its own line. -/
theorem writeNumber_eq_some {setting : Setting} {n : UInt64} {text : List Char} :
    writeNumber setting n = some text ↔ Fits n ∧ text = numberLine (setting, n) := by
  unfold writeNumber
  split
  · next h => simp [h, numberLine, eq_comm]
  · next h => simp [h]

/-- The defaults are written iff all of them fit, under their header. -/
theorem writeDefaults_eq_some {defaults : Defaults} {text : List Char} :
    writeDefaults defaults = some text ↔ (∀ number ∈ defaults.numbers, Fits number.2) ∧
      text = "[defaults]\n".toList ++ defaults.numbers.flatMap numberLine := by
  unfold writeDefaults
  simp only [Option.bind_eq_bind, Option.bind_eq_some_iff, writeNumber_eq_some, Option.some.injEq]
  constructor
  · rintro ⟨_, ⟨hs, rfl⟩, _, ⟨hl, rfl⟩, _, ⟨hq, rfl⟩, _, ⟨he, rfl⟩, rfl⟩
    refine ⟨?_, by simp [Defaults.numbers]⟩
    simpa [Defaults.numbers] using ⟨hs, hl, hq, he⟩
  · rintro ⟨h, rfl⟩
    simp only [Defaults.numbers, List.mem_cons, List.not_mem_nil, or_false, forall_eq_or_imp,
      forall_eq] at h
    obtain ⟨hs, hl, hq, he⟩ := h
    exact ⟨_, ⟨hs, rfl⟩, _, ⟨hl, rfl⟩, _, ⟨hq, rfl⟩, _, ⟨he, rfl⟩, by simp [Defaults.numbers]⟩

/-- An override that is not given writes nothing. -/
theorem writeOverride_eq_some {setting : Setting} {n : Option UInt64} {text : List Char} :
    writeOverride setting n = some text ↔
      (∀ number ∈ (n.map (Prod.mk setting)).toList, Fits number.2) ∧
        text = (n.map (Prod.mk setting)).toList.flatMap numberLine := by
  cases n with
  | none => simp [writeOverride, eq_comm]
  | some n => simp [writeOverride, writeNumber_eq_some]

/-- The section of a device in writing. -/
def sectionText (entry : DeviceId × Overrides) : List Char :=
  '\n' :: ('[' :: ("devices".toList ++ '.' :: (Toml.writeKey entry.1.raw ++ [']', '\n'])) ++
    entry.2.numbers.flatMap numberLine)

/-- A section is written iff its numbers fit. -/
theorem writeDevice_eq_some {entry : DeviceId × Overrides} {text : List Char} :
    (writeDevice entry.1 entry.2).map ('\n' :: ·) = some text ↔
      (∀ number ∈ entry.2.numbers, Fits number.2) ∧ text = sectionText entry := by
  unfold writeDevice
  simp only [Option.bind_eq_bind, Option.map_eq_some_iff, Option.bind_eq_some_iff,
    writeOverride_eq_some, Option.some.injEq]
  have key : "[devices.".toList = '[' :: ("devices".toList ++ ['.']) := by decide
  constructor
  · rintro ⟨_, ⟨_, ⟨hs, rfl⟩, _, ⟨hl, rfl⟩, _, ⟨hq, rfl⟩, rfl⟩, rfl⟩
    refine ⟨fun number h => ?_, ?_⟩
    · rcases List.mem_append.mp h with h | h
      · rcases List.mem_append.mp h with h | h
        · exact hs number h
        · exact hl number h
      · exact hq number h
    · simp [sectionText, Overrides.numbers, key]
  · rintro ⟨h, rfl⟩
    refine ⟨_, ⟨_, ⟨fun number hm => h number ?_, rfl⟩, _, ⟨fun number hm => h number ?_, rfl⟩, _,
      ⟨fun number hm => h number ?_, rfl⟩, rfl⟩, ?_⟩
    · exact List.mem_append_left _ (List.mem_append_left _ hm)
    · exact List.mem_append_left _ (List.mem_append_right _ hm)
    · exact List.mem_append_right _ hm
    · simp [sectionText, Overrides.numbers, key]

/-- The sections of the devices in writing. -/
def sectionsText : List (DeviceId × Overrides) → List Char
  | [] => '\n' :: ('[' :: ("devices".toList ++ [']', '\n']))
  | sections => sections.flatMap sectionText

/-- All sections are written iff the numbers of all of them fit. -/
theorem mapM_writeDevice_eq_some {sections : List (DeviceId × Overrides)} {texts : List (List Char)} :
    sections.mapM (fun entry => (writeDevice entry.1 entry.2).map ('\n' :: ·)) = some texts ↔
      (∀ entry ∈ sections, ∀ number ∈ entry.2.numbers, Fits number.2) ∧
        texts = sections.map sectionText := by
  induction sections generalizing texts with
  | nil => simp [eq_comm]
  | cons entry rest ih =>
    simp only [List.mapM_cons, Option.bind_eq_bind, Option.bind_eq_some_iff, writeDevice_eq_some, ih,
      Option.pure_def, Option.some.injEq]
    constructor
    · rintro ⟨_, ⟨he, rfl⟩, _, ⟨hr, rfl⟩, rfl⟩
      exact ⟨List.forall_mem_cons.mpr ⟨he, hr⟩, rfl⟩
    · rintro ⟨h, rfl⟩
      obtain ⟨he, hr⟩ := List.forall_mem_cons.mp h
      exact ⟨_, ⟨he, rfl⟩, _, ⟨hr, rfl⟩, rfl⟩

/-- Without sections there is no header for them. -/
theorem writeDevices_eq_some {sections : List (DeviceId × Overrides)} {text : List Char} :
    writeDevices sections = some text ↔
      (∀ entry ∈ sections, ∀ number ∈ entry.2.numbers, Fits number.2) ∧
        text = sectionsText sections := by
  cases sections with
  | nil => simp [writeDevices, sectionsText, eq_comm]
  | cons entry rest =>
    simp only [writeDevices, Option.bind_eq_bind, Option.bind_eq_some_iff, mapM_writeDevice_eq_some,
      Option.some.injEq]
    constructor
    · rintro ⟨_, ⟨h, rfl⟩, rfl⟩
      exact ⟨h, by simp [sectionsText, List.flatMap_def]⟩
    · rintro ⟨h, rfl⟩
      exact ⟨_, ⟨h, rfl⟩, by simp [sectionsText, List.flatMap_def]⟩

/-- The settings in writing, with the sections of the devices in the given order. -/
def writtenIn? (defaults : Defaults) (sections : List (DeviceId × Overrides)) : Option String := do
  let general ← writeDefaults defaults
  let devices ← writeDevices sections
  some (String.ofList (general ++ devices))

/-- A document is written iff all its numbers fit, the defaults before the sections. -/
theorem writtenIn?_eq_some {defaults : Defaults} {sections : List (DeviceId × Overrides)}
    {text : String} :
    writtenIn? defaults sections = some text ↔
      (∀ number ∈ defaults.numbers, Fits number.2) ∧
      (∀ entry ∈ sections, ∀ number ∈ entry.2.numbers, Fits number.2) ∧
      text = String.ofList ("[defaults]\n".toList ++ defaults.numbers.flatMap numberLine ++
        sectionsText sections) := by
  unfold writtenIn?
  simp only [Option.bind_eq_bind, Option.bind_eq_some_iff, writeDefaults_eq_some, writeDevices_eq_some,
    Option.some.injEq]
  constructor
  · rintro ⟨_, ⟨hd, rfl⟩, _, ⟨hs, rfl⟩, rfl⟩
    exact ⟨hd, hs, rfl⟩
  · rintro ⟨hd, hs, rfl⟩
    exact ⟨_, ⟨hd, rfl⟩, _, ⟨hs, rfl⟩, rfl⟩

/-! ### What the lines of settings say -/

open Toml

/-- Numbers as fields. -/
def fieldsOf (numbers : List (Setting × UInt64)) : Fields := numbers.map fun p => numberField p.1 p.2

/-- The lines of the defaults give their fields. -/
theorem fieldsOf_defaults (defaults : Defaults) :
    fieldsOf defaults.numbers = defaultsFields defaults := rfl

/-- The lines of a section give its fields. -/
theorem fieldsOf_overrides (overrides : Overrides) :
    fieldsOf overrides.numbers = overridesFields overrides := by
  cases overrides with
  | mk short long queue =>
    cases short <;> cases long <;> cases queue <;> rfl

/-- Fields as the items of a document. -/
def entries (fields : Fields) : List Item := fields.map fun f => .entry [f.1] f.2

/-- The name of a setting is written as a bare key. -/
theorem isBareKey_name (setting : Setting) : IsBareKey setting.name.toList := by
  cases setting <;> decide

/-- Lines of numbers say one entry each. -/
theorem says_numbers {numbers : List (Setting × UInt64)} (h : ∀ number ∈ numbers, Fits number.2) :
    Says (numbers.flatMap numberLine) numbers.length (entries (fieldsOf numbers)) := by
  induction numbers with
  | nil => exact says_nil
  | cons number rest ih =>
    obtain ⟨hn, hr⟩ := List.forall_mem_cons.mp h
    have hline := (says_number (isBareKey_name number.1) hn).append (ih hr)
    rw [String.ofList_toList, Nat.add_comm] at hline
    exact hline

/-- The items of a section. -/
def sectionItems (entry : DeviceId × Overrides) : List Item :=
  .table [devicesKey, entry.1.raw] :: entries (overridesFields entry.2)

/-- A section says its header and its entries. -/
theorem says_section {entry : DeviceId × Overrides} (h : ∀ number ∈ entry.2.numbers, Fits number.2) :
    Says (sectionText entry) (1 + (1 + entry.2.numbers.length)) (sectionItems entry) := by
  have hheader := says_innerTable devicesKey.toList (by decide) entry.1.raw
  have hsays := says_blank.append (hheader.append (says_numbers h))
  rw [fieldsOf_overrides, String.ofList_toList] at hsays
  exact hsays

/-- The items of all sections. -/
def sectionsItems : List (DeviceId × Overrides) → List Item
  | [] => [.table [devicesKey]]
  | sections => sections.flatMap sectionItems

/-- Sections one after the other say what each says. -/
theorem says_flatMap {sections : List (DeviceId × Overrides)}
    (h : ∀ entry ∈ sections, ∀ number ∈ entry.2.numbers, Fits number.2) :
    ∃ lines, Says (sections.flatMap sectionText) lines (sections.flatMap sectionItems) := by
  induction sections with
  | nil => exact ⟨0, says_nil⟩
  | cons entry rest ih =>
    obtain ⟨he, hr⟩ := List.forall_mem_cons.mp h
    obtain ⟨lines, hlines⟩ := ih hr
    exact ⟨_, (says_section he).append hlines⟩

/-- So do they with the header of all sections before them. -/
theorem says_sections {sections : List (DeviceId × Overrides)}
    (h : ∀ entry ∈ sections, ∀ number ∈ entry.2.numbers, Fits number.2) :
    ∃ lines, Says (sectionsText sections) lines (sectionsItems sections) := by
  cases sections with
  | nil =>
    have hheader := says_table devicesKey.toList (by decide)
    have hsays := says_blank.append hheader
    rw [String.ofList_toList] at hsays
    exact ⟨_, hsays⟩
  | cons entry rest => exact says_flatMap h

/-! ### What the document says -/

/-- The fields of a section have distinct names. -/
theorem nodup_name_overrides (overrides : Overrides) :
    ((overridesFields overrides).map (·.1)).Nodup := by
  cases overrides with
  | mk short long queue =>
    cases short <;> cases long <;> cases queue <;> simp [overridesFields, numberField, Setting.name]

/-- The fields of the defaults have distinct names. -/
theorem nodup_name_defaults (defaults : Defaults) : ((defaultsFields defaults).map (·.1)).Nodup := by
  simp [defaultsFields, numberField, Setting.name]

/-- A section under construction, all of whose fields are there. -/
def sectionNode (entry : DeviceId × Overrides) : String × Node :=
  (entry.1.raw, .table .header ((overridesFields entry.2).map fun f => (f.1, .value f.2)))

/-- The outermost table, when sections have been added to what was there before; the first one
implies the table of all devices. -/
def withSections (front : Entries) : Entries → Entries
  | [] => front
  | sections => front ++ [(devicesKey, .table .implied sections)]

/-- A section comes behind those that are there. -/
theorem foldlM_section {front : Entries} (hf : devicesKey ∉ front.map (·.1))
    (entry : DeviceId × Overrides) {done : Entries} (hnew : entry.1.raw ∉ done.map (·.1)) (path : Path) :
    (sectionItems entry).foldlM Draft.add ⟨withSections front done, path⟩ =
      some ⟨withSections front (done ++ [sectionNode entry]), [devicesKey, entry.1.raw]⟩ := by
  have cons : withSections front (done ++ [sectionNode entry]) =
      front ++ [(devicesKey, .table .implied (done ++ [sectionNode entry]))] := by
    cases done <;> rfl
  have hopened : openTable entry.1.raw done = some (done ++ [(entry.1.raw, .table .header [])]) := by
    rw [openTable, (Directory.findIn_eq_none_iff _ _).mpr hnew, Directory.insertIn_of_not_mem hnew]
  have hheader : Draft.add ⟨withSections front done, path⟩ (.table [devicesKey, entry.1.raw]) =
      some ⟨front ++ [(devicesKey, .table .implied (done ++ [(entry.1.raw, .table .header [])]))],
        [devicesKey, entry.1.raw]⟩ := by
    -- The first section opens the table of devices as well; the later ones find it there.
    have happly : applyHeader openTable [devicesKey, entry.1.raw] (withSections front done) =
        some (front ++ [(devicesKey, .table .implied (done ++ [(entry.1.raw, .table .header [])]))]) := by
      cases done with
      | nil =>
        show descend (openTable entry.1.raw) [devicesKey] front = _
        rw [descend, (Directory.findIn_eq_none_iff _ _).mpr hf]
        simp only [descend, hopened, Option.map_some]
        rw [Directory.insertIn_of_not_mem hf]
      | cons first more =>
        show descend (openTable entry.1.raw) [devicesKey]
          (front ++ [(devicesKey, .table .implied (first :: more))]) = _
        rw [focus_last hf, hopened]
        rfl
    exact congrArg (Option.map _) happly
  have hfocus : Focus [devicesKey, entry.1.raw] fun inner =>
      front ++ [(devicesKey, .table .implied (done ++ [(entry.1.raw, .table .header inner)]))] :=
    (focus_last hnew).within hf
  rw [sectionItems, List.foldlM_cons, hheader]
  simp only [Option.bind_eq_bind, Option.bind_some]
  rw [cons]
  exact foldlM_entries hfocus (overridesFields entry.2) [] (nodup_name_overrides entry.2)
    (by simp)

/-- Sections of distinct devices are added to a document one after the other, behind those that are
there. -/
theorem foldlM_sections {front : Entries} (hf : devicesKey ∉ front.map (·.1))
    (sections : List (DeviceId × Overrides)) (done : Entries)
    (hn : (sections.map (·.1)).Nodup) (hnew : ∀ entry ∈ sections, entry.1.raw ∉ done.map (·.1))
    (path : Path) :
    ∃ last, (sections.flatMap sectionItems).foldlM Draft.add ⟨withSections front done, path⟩ =
      some ⟨withSections front (done ++ sections.map sectionNode), last⟩ := by
  induction sections generalizing done path with
  | nil => exact ⟨path, by simp⟩
  | cons entry rest ih =>
    obtain ⟨he, hr⟩ := List.forall_mem_cons.mp hnew
    simp only [List.map_cons, List.nodup_cons] at hn
    -- the next sections are of other devices than those done
    have hnext : ∀ other ∈ rest, other.1.raw ∉ (done ++ [sectionNode entry]).map (·.1) := by
      intro other hm
      simp only [List.map_append, List.map_cons, List.map_nil, List.mem_append, List.mem_singleton, not_or]
      refine ⟨hr other hm, fun heq => hn.1 ?_⟩
      have hsame : other.1 = entry.1 := congrArg DeviceId.mk heq
      exact hsame ▸ List.mem_map_of_mem hm
    obtain ⟨last, hlast⟩ := ih _ hn.2 hnext [devicesKey, entry.1.raw]
    refine ⟨last, ?_⟩
    rw [List.flatMap_cons, List.foldlM_append, foldlM_section hf entry he path]
    simp only [Option.bind_eq_bind, Option.bind_some]
    rw [hlast, List.append_assoc]
    rfl

/-- The field of a section. -/
def sectionField (entry : DeviceId × Overrides) : String × Datum :=
  (entry.1.raw, .table (overridesFields entry.2))

/-- Sections are finished one by one. -/
theorem finishEntries_sections (sections : List (DeviceId × Overrides)) :
    Node.finishEntries (sections.map sectionNode) = sections.map sectionField := by
  induction sections with
  | nil => rfl
  | cons entry rest ih =>
    rw [List.map_cons, Node.finishEntries, ih, List.map_cons, sectionNode, Node.finishEntry, Node.finish,
      finishEntries_values]
    rfl

/-- Tables are finished entry by entry. -/
theorem finishEntries_append (a b : Entries) :
    Node.finishEntries (a ++ b) = Node.finishEntries a ++ Node.finishEntries b := by
  induction a with
  | nil => rfl
  | cons entry rest ih =>
    rw [List.cons_append, Node.finishEntries, ih]
    rfl

/-- The items of settings define the settings as data. -/
theorem fieldsOf?_items (defaults : Defaults) {sections : List (DeviceId × Overrides)}
    (hn : (sections.map (·.1)).Nodup) :
    fieldsOf? (.table [defaultsKey] :: entries (defaultsFields defaults) ++ sectionsItems sections) =
      some [(defaultsKey, .table (defaultsFields defaults)),
        (devicesKey, .table (sections.map sectionField))] := by
  -- what stands in the root when the defaults have been read
  let front : Entries :=
    [(defaultsKey, .table .header ((defaultsFields defaults).map fun f => (f.1, .value f.2)))]
  have hf : devicesKey ∉ front.map (·.1) := by
    show devicesKey ∉ [defaultsKey]
    decide
  have hgeneral : (.table [defaultsKey] :: entries (defaultsFields defaults)).foldlM Draft.add {} =
      some ⟨front, [defaultsKey]⟩ := by
    have hfocus : Focus [defaultsKey] fun inner => [] ++ [(defaultsKey, .table .header inner)] :=
      focus_last (by simp)
    have hfold := foldlM_entries hfocus (defaultsFields defaults) []
      (nodup_name_defaults defaults) (by simp)
    exact hfold
  have hfinish : Node.finishEntries front = [(defaultsKey, .table (defaultsFields defaults))] := by
    simp only [front, Node.finishEntries, Node.finishEntry, Node.finish, finishEntries_values]
  unfold fieldsOf?
  rw [List.foldlM_append, hgeneral]
  simp only [Option.bind_eq_bind, Option.bind_some]
  cases sections with
  | nil =>
    -- without sections there is still a header for them
    have hempty : Draft.add ⟨front, [defaultsKey]⟩ (.table [devicesKey]) =
        some ⟨front ++ [(devicesKey, .table .header [])], [devicesKey]⟩ := rfl
    simp only [sectionsItems, List.foldlM_cons, hempty, List.foldlM_nil, Option.bind_eq_bind,
      Option.bind_some, Option.pure_def, Option.map_some, finishEntries_append, hfinish]
    rfl
  | cons entry rest =>
    obtain ⟨last, hlast⟩ := foldlM_sections hf (entry :: rest) [] hn (by simp) [defaultsKey]
    rw [sectionsItems, show (⟨front, [defaultsKey]⟩ : Draft) = ⟨withSections front [], [defaultsKey]⟩ from rfl,
      hlast]
    · simp only [Option.map_some, List.nil_append, List.map_cons, withSections, finishEntries_append, hfinish,
        List.singleton_append]
      rw [← List.map_cons, Node.finishEntries, Node.finishEntry, Node.finish, finishEntries_sections]
      rfl
    · simp

/-- What has been written down is a document that says the settings as data, whichever order the sections
come in. -/
theorem parse_writtenIn {defaults : Defaults} {sections : List (DeviceId × Overrides)} {text : String}
    (h : writtenIn? defaults sections = some text) (hn : (sections.map (·.1)).Nodup) :
    Toml.parse text = some [(defaultsKey, .table (defaultsFields defaults)),
      (devicesKey, .table (sections.map sectionField))] := by
  obtain ⟨hd, hs, rfl⟩ := writtenIn?_eq_some.mp h
  have hheader := says_table defaultsKey.toList (by decide)
  obtain ⟨lines, hsections⟩ := says_sections hs
  have hsays := (hheader.append (says_numbers hd)).append hsections
  rw [String.ofList_toList, fieldsOf_defaults] at hsays
  have hitems := hsays.readItems (by simp)
  unfold Toml.parse
  rw [String.toList_ofList]
  show (Toml.readItems _).bind fieldsOf? = _
  rw [show ("[defaults]\n".toList : List Char) = '[' :: (defaultsKey.toList ++ [']', '\n']) from by
      decide,
    hitems]
  exact fieldsOf?_items defaults hn

end Settings

end P4Control
