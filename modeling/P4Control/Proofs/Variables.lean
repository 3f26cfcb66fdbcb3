import P4Control.Proofs.Saved
import P4Control.Proofs.Tidy

namespace P4Control

/-!
# Settings from a file and from the environment

A number that the environment sets counts before that of the file, and the number of the file before the
built-in one.  This goes setting by setting: a number that is set hides no other number.

* `Variable` — a variable of the environment that sets a number.
* `Environment.fields_variables` — what such variables set together.
* `Settings.isLayer_of_holdsNumbers` — a file of numbers is a layer.
* `Settings.load_layers` — the settings that are loaded.
-/

/-- A variable that sets a number. -/
structure Variable where
  /-- The device of which it is a setting, as the variable spells it; the general settings have none. -/
  device : Option String
  /-- The setting. -/
  setting : Setting
  /-- Its number. -/
  value : UInt64

namespace Variable

/-- The name of the variable. -/
def name (v : Variable) : String :=
  match v.device with
  | none => "P4RT_DEFAULTS__" ++ v.setting.name.toUpper
  | some id => "P4RT_DEVICES__" ++ id ++ "__" ++ v.setting.name.toUpper

/-- The variable in the environment. -/
def entry (v : Variable) : String × String := (v.name, toString v.value.toNat)

/-- The device of which it is a setting. -/
def owner? (v : Variable) : Option DeviceId := v.device.map fun id => ⟨id.toLower⟩

/-- The device is spelled with letters and digits. -/
def IsNamed (v : Variable) : Prop :=
  ∀ id, v.device = some id → id ≠ "" ∧ ∀ c ∈ id.toList, c.isAlphanum = true

/-- The keys under which the number is found. -/
def path (v : Variable) : List String :=
  match v.owner? with
  | none => [Settings.defaultsKey, v.setting.name]
  | some device => [Settings.devicesKey, device.raw, v.setting.name]

/-- What the variable sets, as data. -/
def fields (v : Variable) : Fields :=
  match v.owner? with
  | none => [(Settings.defaultsKey, .table [(v.setting.name, .integer v.value.toNat)])]
  | some device =>
    [(Settings.devicesKey, .table [(device.raw, .table [(v.setting.name, .integer v.value.toNat)])])]

end Variable

namespace Environment

/-! ### Names -/

/-- A character of which the names of variables consist. -/
def IsNameChar (c : Char) : Prop := c.isAlphanum = true ∨ c = '_'

instance (c : Char) : Decidable (IsNameChar c) := inferInstanceAs (Decidable (_ ∨ _))

/-- Names are written in ASCII. -/
theorem IsNameChar.toNat_lt {c : Char} (h : IsNameChar c) : c.toNat < 128 := by
  rcases h with h | rfl
  · simp only [Char.isAlphanum, Char.isAlpha, Char.isUpper, Char.isLower, Char.isDigit, Bool.or_eq_true,
      Bool.and_eq_true, decide_eq_true_eq, UInt32.le_iff_toNat_le, ge_iff_le] at h
    change ((65 ≤ c.toNat ∧ c.toNat ≤ 90) ∨ 97 ≤ c.toNat ∧ c.toNat ≤ 122) ∨
      48 ≤ c.toNat ∧ c.toNat ≤ 57 at h
    omega
  · decide

/-- What holds of the characters of names can be tried. -/
theorem IsNameChar.of_try {p : Char → Prop} (hp : ∀ n < 128, IsNameChar (Char.ofNat n) → p (Char.ofNat n))
    {c : Char} (h : IsNameChar c) : p c := by
  rw [← Char.ofNat_toNat c] at h ⊢
  exact hp c.toNat (by rw [← Char.ofNat_toNat c]; exact h.toNat_lt) h

/-- Names have no white space. -/
theorem IsNameChar.isSpace {c : Char} (h : IsNameChar c) : Environment.isSpace c = false :=
  h.of_try (p := fun c => Environment.isSpace c = false) (by decide)

/-- Names stay names in lower case. -/
theorem IsNameChar.toLower {c : Char} (h : IsNameChar c) : IsNameChar c.toLower :=
  h.of_try (p := fun c => IsNameChar c.toLower) (by decide)

/-- A letter or digit in lower case does not part keys. -/
theorem toLower_ne {c : Char} (h : c.isAlphanum = true) : c.toLower ≠ '_' ∧ c.toLower ≠ '.' :=
  IsNameChar.of_try (p := fun c => c.isAlphanum = true → c.toLower ≠ '_' ∧ c.toLower ≠ '.')
    (by decide) (.inl h) h

/-- There is no white space to drop around a text that begins and ends with none. -/
theorem trim_eq {s : List Char} (h : ∀ c ∈ s, isSpace c = false) : trim s = s := by
  have keep : ∀ {s : List Char}, (∀ c ∈ s, isSpace c = false) → s.dropWhile isSpace = s := by
    intro s h
    cases s with
    | nil => rfl
    | cons c rest => exact List.dropWhile_cons_of_neg (by simp [h c (by simp)])
  unfold trim
  rw [keep h, keep (by simpa using h), List.reverse_reverse]

/-- A key without underscores and dots goes up to the next two underscores. -/
theorem splitKeys_append {part : List Char} (h : ∀ c ∈ part, c ≠ '_' ∧ c ≠ '.') (key rest : List Char) :
    splitKeys key (part ++ '_' :: '_' :: rest) = (key ++ part) :: splitKeys [] rest := by
  induction part generalizing key with
  | nil => rw [List.nil_append, splitKeys, List.append_nil]
  | cons c part ih =>
    obtain ⟨hc, hpart⟩ := List.forall_mem_cons.mp h
    rw [List.cons_append, splitKeys, ih hpart, List.append_assoc, List.singleton_append]
    · exact fun r h _ => hc.1 h
    · exact hc.2

/-- What holds of the characters of a text is tried on these alone, and not on all that there are. -/
theorem forall_of_all {p : Char → Prop} [DecidablePred p] {s : List Char}
    (h : s.all (fun c => decide (p c)) = true) : ∀ c ∈ s, p c :=
  fun c hc => of_decide_eq_true (List.all_eq_true.mp h c hc)

/-- The name of a setting has single underscores only, so it is one key. -/
theorem splitKeys_setting (setting : Setting) : splitKeys [] setting.name.toList = [setting.name.toList] := by
  cases setting <;> decide

/-- The name in upper case gives the name back in lower case. -/
theorem lower_setting (setting : Setting) :
    setting.name.toUpper.toList.map Char.toLower = setting.name.toList := by
  cases setting <;> decide +kernel

/-- The name of a setting is a name. -/
theorem isNameChar_setting (setting : Setting) : ∀ c ∈ setting.name.toUpper.toList, IsNameChar c :=
  forall_of_all (by cases setting <;> decide +kernel)

/-- A name of plain characters is the path of keys it spells in lower case. -/
theorem path?_of_nameChars {name : String} (h : ∀ c ∈ name.toList, IsNameChar c) (rest : List Char)
    (hlower : name.toList.map Char.toLower = nameStart ++ rest) {keys : List String}
    (hkeys : splitKeys [] rest = keys.map String.toList) (hne : ∀ key ∈ keys, key ≠ "") :
    path? name = some keys := by
  have hrest : ∀ c ∈ rest, isSpace c = false := by
    intro c hc
    have hm : c ∈ name.toList.map Char.toLower := hlower ▸ List.mem_append_right _ hc
    obtain ⟨c', hc', rfl⟩ := List.mem_map.mp hm
    exact (h c' hc').toLower.isSpace
  have hany : ((keys.map String.toList).any List.isEmpty) = false := by
    rw [List.any_eq_false]
    intro key hk
    obtain ⟨key', hk', rfl⟩ := List.mem_map.mp hk
    simp [hne key' hk']
  unfold path?
  rw [trim_eq fun c hc => (h c hc).isSpace, hlower]
  dsimp only
  rw [List.take_left, List.drop_left, trim_eq hrest, hkeys, if_pos rfl, hany]
  simp [Function.comp_def]

/-! ### Values -/

/-- A digit of a document is a digit. -/
theorem isDigit_of_isDigit {c : Char} (h : Toml.isDigit c = true) : c.isDigit = true :=
  Char.isDigit_iff_toNat.mpr (Toml.isDigit_iff.mp h)

/-- A digit may stand in a name. -/
theorem isNameChar_of_isDigit {c : Char} (h : Toml.isDigit c = true) : IsNameChar c := by
  simp [IsNameChar, Char.isAlphanum, isDigit_of_isDigit h]

/-- What may stand in a name may stand in a word of a value. -/
theorem IsNameChar.isWord {c : Char} (h : IsNameChar c) : isGap c = false ∧ isSeparator c = false :=
  h.of_try (p := fun c => isGap c = false ∧ isSeparator c = false) (by decide)

/-- Digits are read as the number that they write. -/
theorem natural?_digits {digits : List Char} (hne : digits ≠ []) (h : ∀ c ∈ digits, Toml.isDigit c = true) :
    natural? digits = some (Toml.digitsValue 10 digits) := by
  have reads : ∀ (digits : List Char) (start : Nat), (∀ c ∈ digits, Toml.isDigit c = true) →
      digits.foldlM (fun acc c => if c.isDigit then some (10 * acc + (c.toNat - 48)) else none) start
        = some (digits.foldl (fun acc c => 10 * acc + (Toml.hexValue? c).getD 0) start) := by
    intro digits
    induction digits with
    | nil => intros; rfl
    | cons c rest ih =>
      intro start h
      obtain ⟨hc, hrest⟩ := List.forall_mem_cons.mp h
      rw [List.foldlM_cons, if_pos (isDigit_of_isDigit hc), List.foldl_cons, Toml.hexValue?_of_isDigit hc]
      exact ih _ hrest
  unfold natural?
  rw [if_neg (by simpa using hne)]
  exact reads digits 0 h

/-- So they are where a sign could stand before them. -/
theorem integer?_digits {digits : List Char} (hne : digits ≠ []) (h : ∀ c ∈ digits, Toml.isDigit c = true) :
    integer? digits = some (Toml.digitsValue 10 digits : Int) := by
  unfold integer?
  split
  · exact absurd (h '-' (by simp)) (by decide)
  · exact absurd (h '+' (by simp)) (by decide)
  · rw [natural?_digits hne h]
    rfl

/-- A word of digits is a value, the number that they spell. -/
theorem readValue_digits (fuel : Nat) {digits : List Char} (hne : digits ≠ [])
    (h : ∀ c ∈ digits, Toml.isDigit c = true) :
    readValue (fuel + 1) digits = some (.integer (Toml.digitsValue 10 digits), []) := by
  have hname := fun c hc => isNameChar_of_isDigit (h c hc)
  have hgaps : skipGaps digits = digits := by
    obtain ⟨c, rest, rfl⟩ := List.exists_cons_of_ne_nil hne
    exact List.dropWhile_cons_of_neg (by simp [(hname c (by simp)).isWord.1])
  have hword : ∀ c ∈ digits, (!isSeparator c) = true := fun c hc => by simp [(hname c hc).isWord.2]
  have htake : digits.takeWhile (fun c => !isSeparator c) = digits :=
    List.takeWhile_eq_self_iff.mpr hword
  have hdrop : digits.dropWhile (fun c => !isSeparator c) = [] := List.dropWhile_eq_nil_iff.mpr hword
  unfold readValue
  rw [hgaps]
  split
  · exact absurd (h 't' (by simp)) (by decide)
  · exact absurd (h 'f' (by simp)) (by decide)
  · exact absurd (h '\x7b' (by simp)) (by decide)
  · exact absurd (h '[' (by simp)) (by decide)
  · exact absurd (h '"' (by simp)) (by decide)
  · exact absurd (h '\'' (by simp)) (by decide)
  · exact absurd (h '\'' (by simp)) (by decide)
  · rw [htake, hdrop, trim_eq fun c hc => (hname c hc).isSpace, wordDatum, integer?_digits hne h]
    rfl

/-- A number in decimal means this number. -/
theorem datumOf_toString (n : Nat) : datumOf (toString n) = .integer n := by
  have hdigits : ∀ c ∈ Toml.writeNatural n, Toml.isDigit c = true := fun c => Toml.isDigit_of_mem_writeNatural
  have hne : Toml.writeNatural n ≠ [] := by
    obtain ⟨c, ds, h⟩ := Toml.writeNatural_eq_cons n
    simp [h]
  have hlist : (toString n).toList = Toml.writeNatural n := by
    show (String.ofList (Nat.toDigits 10 n)).toList = _
    rw [String.toList_ofList, Toml.writeNatural]
  unfold datumOf
  rw [hlist, readValue_digits _ hne hdigits, Toml.digitsValue_writeNatural]

end Environment

namespace Variable

open Datum Settings

/-! ### Variables as layers -/

/-- The name of a variable is a name, if that of its device is. -/
theorem isNameChar_name {v : Variable} (h : v.IsNamed) : ∀ c ∈ v.name.toList, Environment.IsNameChar c := by
  intro c hc
  unfold name at hc
  cases hd : v.device with
  | none =>
    rw [hd, String.toList_append, List.mem_append] at hc
    rcases hc with hc | hc
    · exact Environment.forall_of_all (by decide) c hc
    · exact Environment.isNameChar_setting v.setting c hc
  | some id =>
    rw [hd, String.toList_append, String.toList_append, String.toList_append, List.mem_append,
      List.mem_append, List.mem_append] at hc
    rcases hc with ((hc | hc) | hc) | hc
    · exact Environment.forall_of_all (by decide) c hc
    · exact .inl ((h id hd).2 c hc)
    · exact Environment.forall_of_all (by decide) c hc
    · exact Environment.isNameChar_setting v.setting c hc

/-- A string is put in lower case character by character. -/
theorem toList_toLower (s : String) : s.toLower.toList = s.toList.map Char.toLower := by
  unfold String.toLower
  exact String.toList_map

/-- The name of a variable leads to its number. -/
theorem path?_name {v : Variable} (h : v.IsNamed) : Environment.path? v.name = some v.path := by
  have hsetting : v.setting.name ≠ "" := by cases v.setting <;> decide
  cases hd : v.device with
  | none =>
    have hpath : v.path = ["defaults", v.setting.name] := by
      simp [path, owner?, hd, defaultsKey]
    rw [hpath]
    refine Environment.path?_of_nameChars (isNameChar_name h)
      ("defaults__".toList ++ v.setting.name.toList) ?_ ?_ (by simp [hsetting])
    · have hstart : "P4RT_DEFAULTS__".toList.map Char.toLower =
          Environment.nameStart ++ "defaults__".toList := by decide
      rw [name, hd, String.toList_append, List.map_append, Environment.lower_setting, hstart,
        List.append_assoc]
    · show Environment.splitKeys [] ("defaults".toList ++ '_' :: '_' :: v.setting.name.toList) = _
      -- No part of the name has two underscores in a row, so the name is split where it was put together.
      rw [Environment.splitKeys_append (Environment.forall_of_all (by decide)),
        Environment.splitKeys_setting]
      rfl
  | some id =>
    obtain ⟨hid, hchars⟩ := h id hd
    have hlower : id.toLower ≠ "" := by
      intro he
      have := congrArg String.toList he
      rw [toList_toLower] at this
      exact hid (by simpa using this)
    have hpath : v.path = ["devices", id.toLower, v.setting.name] := by
      simp [path, owner?, hd, devicesKey]
    rw [hpath]
    refine Environment.path?_of_nameChars (isNameChar_name h)
      ("devices__".toList ++ (id.toLower.toList ++ '_' :: '_' :: v.setting.name.toList)) ?_ ?_
      (by simp [hsetting, hlower])
    · have hstart : "P4RT_DEVICES__".toList.map Char.toLower =
          Environment.nameStart ++ "devices__".toList := by decide
      have hgap : "__".toList.map Char.toLower = ['_', '_'] := by decide
      rw [name, hd, String.toList_append, String.toList_append, String.toList_append, List.map_append,
        List.map_append, List.map_append, Environment.lower_setting, toList_toLower, hstart, hgap]
      simp only [List.append_assoc, List.cons_append, List.nil_append]
    · show Environment.splitKeys []
        ("devices".toList ++ '_' :: '_' :: (id.toLower.toList ++ '_' :: '_' :: v.setting.name.toList)) = _
      have hparts : ∀ c ∈ id.toLower.toList, c ≠ '_' ∧ c ≠ '.' := by
        intro c hc
        rw [toList_toLower] at hc
        obtain ⟨c', hc', rfl⟩ := List.mem_map.mp hc
        exact Environment.toLower_ne (hchars c' hc')
      rw [Environment.splitKeys_append (Environment.forall_of_all (by decide)),
        Environment.splitKeys_append hparts, Environment.splitKeys_setting]
      rfl

/-- The value of a variable is read as its number. -/
theorem datumOf_entry (v : Variable) : Environment.datumOf v.entry.2 = .integer v.value.toNat :=
  Environment.datumOf_toString v.value.toNat

/-- One number is a table of numbers. -/
theorem each_number (setting : Setting) (n : UInt64) : Each IsNumber [(setting.name, .integer n.toNat)] := by
  refine ⟨by simp, fun k d h => ?_⟩
  cases List.mem_singleton.mp (Directory.mem_of_findIn h)
  exact ⟨n, rfl⟩

/-- A table of one number has no other. -/
theorem numberIn_number (setting other : Setting) (n : UInt64) :
    numberIn [(setting.name, .integer n.toNat)] other = if setting = other then some n else none := by
  by_cases h : setting = other
  · subst h
    rw [if_pos rfl]
    exact numberIn_of_some (by simp [Directory.findIn])
  · have hne : setting.name ≠ other.name := by
      intro he
      revert h
      cases setting <;> cases other <;> first | exact fun h => h rfl | exact absurd he (by decide)
    rw [if_neg h]
    exact numberIn_of_none (by simp [Directory.findIn, hne])

/-- What a variable sets is a layer. -/
theorem isLayer_fields (v : Variable) : IsLayer v.fields := by
  unfold fields
  split
  · refine ⟨by simp, fun d h => ?_, fun d h => ?_⟩
    · cases List.mem_singleton.mp (Directory.mem_of_findIn h)
      exact ⟨_, rfl, each_number v.setting v.value⟩
    · cases h
  · refine ⟨by simp, fun d h => ?_, fun d h => ?_⟩
    · cases h
    · cases List.mem_singleton.mp (Directory.mem_of_findIn h)
      refine ⟨_, rfl, by simp, fun k d hd => ?_⟩
      cases List.mem_singleton.mp (Directory.mem_of_findIn hd)
      exact ⟨_, rfl, each_number v.setting v.value⟩

end Variable

namespace Settings

open Datum

/-- The number that a layer sets for a setting, of a device or in general. -/
def number? (fields : Fields) (owner : Option DeviceId) (setting : Setting) : Option UInt64 :=
  match owner with
  | none => general? fields setting
  | some device => override? fields device setting

/-- The upper layer decides on a number, where it has one. -/
theorem IsLayer.number?_over {olds news : Fields} (ho : IsLayer olds) (hn : IsLayer news)
    (owner : Option DeviceId) (setting : Setting) :
    number? (overFields olds news) owner setting =
      (number? news owner setting).or (number? olds owner setting) := by
  cases owner with
  | none => exact ho.general?_over hn setting
  | some device => exact ho.override?_over hn device setting

end Settings

namespace Variable

open Datum Settings

/-- A variable sets its own number and no other. -/
theorem number?_fields (v : Variable) (owner : Option DeviceId) (setting : Setting) :
    number? v.fields owner setting =
      if v.owner? = owner ∧ v.setting = setting then some v.value else none := by
  have hnone : ∀ setting, numberIn [] setting = none := fun _ => rfl
  unfold fields number?
  cases hv : v.owner? with
  | none =>
    cases owner with
    | none => simp [general?, tableAt, Directory.findIn, numberIn_number]
    | some device => simp [override?, tableAt, Directory.findIn, defaultsKey, devicesKey, hnone]
  | some device =>
    cases owner with
    | none => simp [general?, tableAt, Directory.findIn, defaultsKey, devicesKey, hnone]
    | some other =>
      by_cases hd : device = other
      · subst hd
        simp [override?, tableAt, Directory.findIn, numberIn_number]
      · have hraw : device.raw ≠ other.raw := fun he => hd (congrArg DeviceId.mk he)
        simp [override?, tableAt, Directory.findIn, hd, hraw, hnone]

/-- A variable mentions its own device, in lower case. -/
theorem mentions_fields (v : Variable) (device : DeviceId) :
    Mentions v.fields device ↔ v.owner? = some device := by
  unfold fields Mentions
  cases hv : v.owner? with
  | none => simp [tableAt, Directory.findIn, defaultsKey, devicesKey]
  | some owner =>
    simp only [tableAt, Directory.findIn, List.map_cons, List.map_nil, List.mem_singleton, Option.some.injEq,
      if_true]
    exact ⟨fun h => (congrArg DeviceId.mk h).symm, fun h => by rw [h]⟩

/-- The number that variables set. -/
def valueOf? (vars : List Variable) (owner : Option DeviceId) (setting : Setting) : Option UInt64 :=
  (vars.find? fun v => v.owner? = owner ∧ v.setting = setting).map (·.value)

/-- The first variable decides, if it is about the number. -/
theorem valueOf?_cons (v : Variable) (rest : List Variable) (owner : Option DeviceId) (setting : Setting) :
    valueOf? (v :: rest) owner setting =
      if v.owner? = owner ∧ v.setting = setting then some v.value else valueOf? rest owner setting := by
  unfold valueOf?
  rw [List.find?_cons]
  by_cases h : v.owner? = owner ∧ v.setting = setting <;> simp [h]

/-- No number is set twice. -/
def Distinct (vars : List Variable) : Prop :=
  (vars.map fun v => (v.owner?, v.setting)).Nodup

instance (vars : List Variable) : Decidable (Distinct vars) :=
  inferInstanceAs (Decidable (List.Nodup _))

/-- No other variable is about the same number. -/
theorem Distinct.valueOf?_rest {v : Variable} {rest : List Variable} (h : Distinct (v :: rest)) :
    valueOf? rest v.owner? v.setting = none := by
  unfold valueOf?
  rw [Option.map_eq_none_iff, List.find?_eq_none]
  intro other hm
  simp only [decide_eq_true_eq]
  rintro ⟨ho, hs⟩
  refine (List.nodup_cons.mp h).1 (List.mem_map.mpr ⟨other, hm, ?_⟩)
  rw [ho, hs]

/-- Variables laid over a layer one after the other. -/
def laidOver (base : Fields) (vars : List Variable) : Fields :=
  vars.foldl (fun fields v => overFields fields v.fields) base

variable {base : Fields} {vars : List Variable}

/-- Variables laid over a layer make a layer. -/
theorem isLayer_laidOver (hb : IsLayer base) : IsLayer (laidOver base vars) := by
  induction vars generalizing base with
  | nil => exact hb
  | cons v rest ih => exact ih (hb.over v.isLayer_fields)

/-- Where variables set a number it counts, elsewhere what lies below. -/
theorem number?_laidOver (hb : IsLayer base) (hd : Distinct vars) (owner : Option DeviceId)
    (setting : Setting) :
    number? (laidOver base vars) owner setting =
      (valueOf? vars owner setting).or (number? base owner setting) := by
  induction vars generalizing base with
  | nil => rfl
  | cons v rest ih =>
    have hrest := ih (hb.over v.isLayer_fields) (List.nodup_cons.mp hd).2
    rw [hb.number?_over v.isLayer_fields, number?_fields] at hrest
    rw [valueOf?_cons]
    refine hrest.trans ?_
    split
    · next h =>
      obtain ⟨rfl, rfl⟩ := h
      rw [hd.valueOf?_rest]
      rfl
    · rw [Option.none_or]

/-- A device is mentioned by the layer below or by a variable. -/
theorem mentions_laidOver (hb : IsLayer base) (device : DeviceId) :
    Mentions (laidOver base vars) device ↔
      Mentions base device ∨ ∃ v ∈ vars, v.owner? = some device := by
  induction vars generalizing base with
  | nil => simp [laidOver]
  | cons v rest ih =>
    refine (ih (hb.over v.isLayer_fields)).trans ?_
    rw [hb.mentions_over v.isLayer_fields, mentions_fields, or_assoc]
    simp

end Variable

namespace Environment

/-- What one variable of the environment does. -/
def lay (fields : Fields) (entry : String × String) : Fields :=
  match path? entry.1 with
  | some (key :: path) => Datum.overFields fields [(key, Datum.nest (datumOf entry.2) path)]
  | _ => fields

/-- Reading a variable lays its fields over what was there. -/
theorem lay_entry {v : Variable} (h : v.IsNamed) (fields : Fields) :
    lay fields v.entry = Datum.overFields fields v.fields := by
  unfold lay
  rw [show v.entry.1 = v.name from rfl, v.path?_name h, v.datumOf_entry]
  unfold Variable.path Variable.fields
  cases v.owner? <;> rfl

/-- Variables that do not count leave no trace. -/
theorem foldl_lay_filter (environment : Environment) (base : Fields) :
    environment.foldl lay base =
      (environment.filter fun entry => TakesPart entry.1).foldl lay base := by
  induction environment generalizing base with
  | nil => rfl
  | cons entry rest ih =>
    rw [List.foldl_cons, ih]
    by_cases ht : TakesPart entry.1
    · rw [List.filter_cons_of_pos (by simpa using ht), List.foldl_cons]
    · rw [List.filter_cons_of_neg (by simpa using ht), lay, path?_eq_none ht]

/-- Reading all variables lays their fields over one another. -/
theorem foldl_lay_entries {vars : List Variable} (hn : ∀ v ∈ vars, v.IsNamed) (base : Fields) :
    (vars.map Variable.entry).foldl lay base = Variable.laidOver base vars := by
  induction vars generalizing base with
  | nil => rfl
  | cons v rest ih =>
    obtain ⟨hv, hrest⟩ := List.forall_mem_cons.mp hn
    rw [List.map_cons, List.foldl_cons, lay_entry hv, ih hrest]
    rfl

/-- Variables that set numbers, among others that do not count, set these numbers together. -/
theorem fields_variables {environment : Environment} {vars : List Variable}
    (he : environment.filter (fun entry => TakesPart entry.1) = vars.map Variable.entry)
    (hn : ∀ v ∈ vars, v.IsNamed) : environment.fields = Variable.laidOver [] vars := by
  show environment.foldl lay [] = _
  rw [foldl_lay_filter, he, foldl_lay_entries hn]

end Environment

namespace Settings

open Datum

/-! ### Files of numbers -/

/-- The general settings that a file holds are numbers, and so are the settings of each of its devices. -/
structure HoldsNumbers (file : Fields) : Prop where
  general : ∀ d, Directory.findIn defaultsKey file = some d →
    ∃ fields, d = .table fields ∧ ∀ field ∈ fields, IsNumber field.2
  devices : ∀ d, Directory.findIn devicesKey file = some d →
    ∃ sections, d = .table sections ∧ ∀ device ∈ sections,
      ∃ fields, device.2 = .table fields ∧ ∀ field ∈ fields, IsNumber field.2

/-- A tidy table whose fields are of one kind. -/
theorem each_of_tidy {kind : Datum → Prop} {fields : Fields} (ht : Datum.Tidy (.table fields))
    (hk : ∀ field ∈ fields, kind field.2) : Each kind fields :=
  ⟨(tidy_table_iff.mp ht).1, fun _ _ h => hk _ (Directory.mem_of_findIn h)⟩

/-- A document that holds numbers is a layer. -/
theorem isLayer_of_holdsNumbers {file : Fields} (ht : Datum.Tidy (.table file)) (h : HoldsNumbers file) :
    IsLayer file := by
  obtain ⟨hnodup, hfields⟩ := tidy_table_iff.mp ht
  refine ⟨hnodup, fun d hd => ?_, fun d hd => ?_⟩
  · have htidy := hfields _ (Directory.mem_of_findIn hd)
    obtain ⟨fields, rfl, hnumbers⟩ := h.general d hd
    exact ⟨fields, rfl, each_of_tidy htidy hnumbers⟩
  · have htidy := hfields _ (Directory.mem_of_findIn hd)
    obtain ⟨sections, rfl, hsections⟩ := h.devices d hd
    refine ⟨sections, rfl, each_of_tidy htidy fun device hm => ?_⟩
    have hinner := (tidy_table_iff.mp htidy).2 device hm
    obtain ⟨fields, he, hnumbers⟩ := hsections device hm
    rw [he] at hinner ⊢
    exact ⟨fields, rfl, each_of_tidy hinner hnumbers⟩

/-- Whatever is read from a file is tidy. -/
theorem tidy_fileFields {place : Place} {file : Fields} (h : fileFields place = .ok file) :
    Datum.Tidy (.table file) := by
  unfold fileFields at h
  split at h
  · split at h
    · next hp =>
      cases h
      obtain ⟨doc, -, hp⟩ := Option.bind_eq_some_iff.mp hp
      exact Toml.tidy_parse hp
    · cases h
  · cases h
    exact .table [] .nil (by simp)

/-! ### The theorem -/

/-- What is loaded from a file of numbers and an environment of numbers.  Each general setting is that of
the environment, else that of the file, else the built-in one.  The devices are those that the file or the
environment mentions, and what they override is what the environment says, else the file.  These settings
are the answer if they pass the check, and else the zero that the check has found is reported. -/
theorem load_layers (place : Place) (file : Fields) (hfile : fileFields place = .ok file)
    (hnumbers : HoldsNumbers file) (environment : Environment) (vars : List Variable)
    (henv : environment.filter (fun entry => Environment.TakesPart entry.1) = vars.map Variable.entry)
    (hnamed : ∀ v ∈ vars, v.IsNamed) (hdistinct : Variable.Distinct vars) :
    ∃ settings : Settings, ofLayers file environment.fields = .ok settings ∧
      (∀ setting, settings.defaults.get setting =
        ((Variable.valueOf? vars none setting).or (general? file setting)).getD
          (Defaults.get {} setting)) ∧
      (∀ device, device ∈ settings.devices.devices ↔
        Mentions file device ∨ ∃ v ∈ vars, v.owner? = some device) ∧
      (∀ device overrides, settings.devices.find? device = some overrides →
        ∀ setting, setting.isOverridable = true → overrides.get setting =
          (Variable.valueOf? vars (some device) setting).or (override? file device setting)) ∧
      (settings.validate = .ok () → load place environment = .ok settings) ∧
      (settings.validate ≠ .ok () → ∃ setting device,
        load place environment = .error (.zero setting device)) := by
  -- Three layers, each laid over the one before: what is built in, the file and the environment.
  have hbuilt : IsLayer ({} : Settings).toFields := isLayer_fieldsWith {} List.nodup_nil
  have hlayer := isLayer_of_holdsNumbers (tidy_fileFields hfile) hnumbers
  have hnil : IsLayer [] := ⟨.nil, fun _ h => (by cases h), fun _ h => (by cases h)⟩
  have hset : IsLayer environment.fields := by
    rw [Environment.fields_variables henv hnamed]
    exact Variable.isLayer_laidOver hnil
  have hvalue : ∀ owner setting, number? environment.fields owner setting =
      Variable.valueOf? vars owner setting := by
    intro owner setting
    rw [Environment.fields_variables henv hnamed, Variable.number?_laidOver hnil hdistinct]
    cases owner <;> exact Option.or_none
  have hmentioned : ∀ device, Mentions environment.fields device ↔ ∃ v ∈ vars, v.owner? = some device := by
    intro device
    rw [Environment.fields_variables henv hnamed, Variable.mentions_laidOver hnil]
    exact or_iff_right List.not_mem_nil
  obtain ⟨settings, hsettings, hget, hmentions, hfind⟩ :=
    ofFields_layer ((hbuilt.over hlayer).over hset)
  have hload : load place environment = settings.validate.map fun _ => settings := by
    simp only [load, hfile, ofLayers, hsettings, bind, Except.bind]
    cases settings.validate <;> rfl
  refine ⟨settings, hsettings, fun setting => ?_, fun device => ?_, fun device overrides ho setting hs => ?_,
    fun hv => ?_, fun hv => ?_⟩
  · have hset? : general? environment.fields setting = Variable.valueOf? vars none setting :=
      hvalue none setting
    have hbuiltIn : general? ({} : Settings).toFields setting = some (Defaults.get {} setting) :=
      general?_fieldsWith {} setting
    rw [hget, (hbuilt.over hlayer).general?_over hset, hbuilt.general?_over hlayer, hset?, hbuiltIn]
    cases Variable.valueOf? vars none setting <;> cases general? file setting <;> rfl
  · have hmem : device ∈ settings.devices.devices ↔ (settings.devices.find? device).isSome = true := by
      rw [Option.isSome_iff_ne_none, ne_eq, DeviceTable.find?_eq_none_iff, Decidable.not_not]
    rw [hmem, hmentions, (hbuilt.over hlayer).mentions_over hset, hbuilt.mentions_over hlayer, hmentioned,
      show ({} : Settings).toFields = fieldsWith {} [] from rfl, mentions_fieldsWith]
    simp
  · have hset? : override? environment.fields device setting =
        Variable.valueOf? vars (some device) setting := hvalue (some device) setting
    have hbuiltIn : override? ({} : Settings).toFields device setting = none := rfl
    rw [hfind device overrides ho setting hs, (hbuilt.over hlayer).override?_over hset,
      hbuilt.override?_over hlayer, hset?, hbuiltIn, Option.or_none]
  · rw [hload, hv]
    rfl
  · rw [hload]
    exact map_validate_of_ne hv

/-- A file that sets a general setting and one of a device. -/
def mixedFile : String := "[defaults]\nlong_timeout_secs = 50\n[devices.leaf1]\nlong_timeout_secs = 7\n"

/-- What the file says. -/
def mixedFields : Fields :=
  [("defaults", .table [("long_timeout_secs", .integer 50)]),
    ("devices", .table [("leaf1", .table [("long_timeout_secs", .integer 7)])])]

/-- An environment that sets one of these again, and settings of the same and of another device. -/
def mixedEnvironment : Environment :=
  [("PATH", "/bin"), ("P4RT_DEFAULTS__LONG_TIMEOUT_SECS", "90"),
    ("P4RT_DEVICES__Leaf1__SHORT_TIMEOUT_SECS", "3"), ("P4RT_DEVICES__LEAF2__OUTBOUND_QUEUE_CAPACITY", "4")]

/-- What the environment sets. -/
def mixedVariables : List Variable :=
  [⟨none, .longTimeout, 90⟩, ⟨some "Leaf1", .shortTimeout, 3⟩, ⟨some "LEAF2", .queueCapacity, 4⟩]

/-- What comes out of both. -/
def mixed : Settings where
  defaults := { longTimeout := 90 }
  devices := .ofList [(⟨"leaf1"⟩, { shortTimeout := some 3, longTimeout := some 7 }),
    (⟨"leaf2"⟩, { queueCapacity := some 4 })]

theorem load_layers_mixed :
    fileFields (.file mixedFile.toUTF8) = .ok mixedFields ∧ HoldsNumbers mixedFields ∧
      mixedEnvironment.filter (fun entry => Environment.TakesPart entry.1) = mixedVariables.map Variable.entry ∧
      (∀ v ∈ mixedVariables, v.IsNamed) ∧ Variable.Distinct mixedVariables ∧
      load (.file mixedFile.toUTF8) mixedEnvironment = .ok mixed := by
  have hfile : fileFields (.file mixedFile.toUTF8) = .ok mixedFields := by
    have hparse : Toml.parse mixedFile = some mixedFields := by cbv
    unfold fileFields
    simp only [fromUTF8?_toUTF8, Option.bind_some, hparse]
  have hnumbers : HoldsNumbers mixedFields := by
    refine ⟨fun d h => ?_, fun d h => ?_⟩
    · cases h
      exact ⟨_, rfl, by simpa using ⟨50, rfl⟩⟩
    · cases h
      exact ⟨_, rfl, by simpa using ⟨7, rfl⟩⟩
  have henv : mixedEnvironment.filter (fun entry => Environment.TakesPart entry.1) =
      mixedVariables.map Variable.entry := by decide +kernel
  have hnamed : ∀ v ∈ mixedVariables, v.IsNamed := by
    simp [mixedVariables, Variable.IsNamed]
  have hdistinct : Variable.Distinct mixedVariables := by decide +kernel
  have hmerged : overFields (overFields ({} : Settings).toFields mixedFields) mixedEnvironment.fields =
      [("defaults", .table [("short_timeout_secs", .integer 10), ("long_timeout_secs", .integer 90),
          ("outbound_queue_capacity", .integer 256), ("event_channel_capacity", .integer 1024)]),
        ("devices", .table
          [("leaf1", .table [("long_timeout_secs", .integer 7), ("short_timeout_secs", .integer 3)]),
            ("leaf2", .table [("outbound_queue_capacity", .integer 4)])])] := by
    rw [Environment.fields_variables henv hnamed]
    cbv
  have hmixed : ofLayers mixedFields mixedEnvironment.fields = .ok mixed := by
    unfold ofLayers
    rw [hmerged]
    cbv
  obtain ⟨settings, hsettings, -, -, -, hload, -⟩ :=
    load_layers _ mixedFields hfile hnumbers mixedEnvironment mixedVariables henv hnamed hdistinct
  cases hsettings.symm.trans hmixed
  exact ⟨hfile, hnumbers, henv, hnamed, hdistinct, hload (by cbv)⟩

end Settings

end P4Control
