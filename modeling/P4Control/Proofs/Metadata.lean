import Mathlib.Data.List.Forall2
import Mathlib.Data.List.Nodup
import P4Control.Packet

namespace P4Control

/-!
# Names and numbers of packet metadata

A pipeline configuration gives numbers to the names of packet metadata fields.  Where no two names end
up with one number, packets with names and packets with numbers are the same thing written in two ways.

* `FirstUnknown` — the first of some labels that is not known.
* `Packet.translate` — the translation of items, of which encoding and decoding are the two directions.
* `translate_eq` — it stops at the first item without a translation, and otherwise keeps them all.
* `PipeconfPart` — what a configuration is built from, `lastNumber?` — the number that a name has been
  given last.
* `Packet.Matches` — a packet and its wire form.
* `metadata_translates` — encoding and decoding are inverse to each other, and say what they do not know.
-/

/-- The first of some labels that is not known. -/
def FirstUnknown {α : Type} (known : α → Prop) (labels : List α) (label : α) : Prop :=
  ∃ before rest, labels = before ++ label :: rest ∧ (∀ other ∈ before, known other) ∧ ¬ known label

namespace Packet

/-! ### Translating items -/

variable {α β γ ε : Type}

/-- The items with their labels translated; the first label without a translation is an error. -/
def translate (lookup : α → Option β) (unknown : α → ε) : List (α × γ) → Except ε (List (β × γ))
  | [] => .ok []
  | (label, value) :: rest =>
    match lookup label with
    | none => .error (unknown label)
    | some label' => (translate lookup unknown rest).map ((label', value) :: ·)

/-- Encoding translates names into numbers. -/
theorem encodeItems_eq (conf : Pipeconf) (items : List (String × Bytes)) :
    encodeItems conf items =
      translate conf.metadataId? (.unknownPacketMetadata conf.id) items := by
  induction items with
  | nil => rfl
  | cons item rest ih =>
    rw [encodeItems, translate, ih]
    cases conf.metadataId? item.1 <;> rfl

/-- Decoding translates numbers into names. -/
theorem decodeItems_eq (conf : Pipeconf) (items : List (UInt32 × Bytes)) :
    decodeItems conf items = translate conf.metadataName?
      (fun number => .unknownPacketMetadata conf.id ("#" ++ toString number)) items := by
  induction items with
  | nil => rfl
  | cons item rest ih =>
    rw [decodeItems, translate, ih]
    cases conf.metadataName? item.1 <;> rfl

section

variable {lookup : α → Option β} {unknown : α → ε} {items : List (α × γ)}

/-- The translation stops at the first label that has none, and otherwise keeps all items. -/
theorem translate_eq (lookup : α → Option β) (unknown : α → ε) (items : List (α × γ)) :
    translate lookup unknown items =
      match (items.map (·.1)).find? fun label => (lookup label).isNone with
      | some label => .error (unknown label)
      | none => .ok (items.filterMap fun item => (lookup item.1).map fun label => (label, item.2)) := by
  induction items with
  | nil => rfl
  | cons item rest ih =>
    obtain ⟨label, value⟩ := item
    rw [translate, List.map_cons, List.find?_cons, List.filterMap_cons]
    cases h : lookup label with
    | none => simp
    | some label' =>
      -- a known label leaves the decision to the rest
      rw [ih]
      cases (rest.map (·.1)).find? fun label => (lookup label).isNone <;> rfl

/-- The items that come out are those that went in, one by one and in order, with other labels. -/
theorem translate_eq_ok_iff {items' : List (β × γ)} :
    translate lookup unknown items = .ok items' ↔
      List.Forall₂ (fun item item' => lookup item.1 = some item'.1 ∧ item.2 = item'.2) items items' := by
  induction items generalizing items' with
  | nil =>
    rw [List.forall₂_nil_left_iff]
    exact ⟨fun h => (Except.ok.inj h).symm, fun h => h ▸ rfl⟩
  | cons item rest ih =>
    obtain ⟨label, value⟩ := item
    rw [List.forall₂_cons_left_iff, translate]
    cases lookup label with
    | none => simp
    | some label' =>
      constructor
      · intro h
        cases hrest : translate lookup unknown rest with
        | error e => simp [hrest, Except.map] at h
        | ok items =>
          simp only [hrest, Except.map, Except.ok.injEq] at h
          exact ⟨(label', value), items, ⟨rfl, rfl⟩, ih.mp hrest, h.symm⟩
      · rintro ⟨⟨label'', value'⟩, items, ⟨hlabel, rfl⟩, hitems, rfl⟩
        obtain rfl := Option.some.inj hlabel
        simp [ih.mpr hitems, Except.map]

variable {known : α → Prop} (hk : ∀ label, (lookup label).isSome = true ↔ known label)

include hk

/-- The first label that a table does not know, found by search. -/
theorem find?_isNone_eq_some_iff {labels : List α} {label : α} :
    labels.find? (fun label => (lookup label).isNone) = some label ↔ FirstUnknown known labels label := by
  have hunknown : ∀ label, (lookup label).isNone = true ↔ ¬ known label := by
    intro label
    rw [← hk]
    cases lookup label <;> simp
  have hknown : ∀ label, (!(lookup label).isNone) = true ↔ known label := by
    intro label
    rw [← hk]
    cases lookup label <;> simp
  simp only [List.find?_eq_some_iff_append, FirstUnknown, hunknown, hknown]
  constructor
  · rintro ⟨hl, before, rest, hs, hb⟩
    exact ⟨before, rest, hs, hb, hl⟩
  · rintro ⟨before, rest, hs, hb, hl⟩
    exact ⟨hl, before, rest, hs, hb⟩

/-- An error names the first label that has no translation. -/
theorem translate_eq_error_iff {e : ε} :
    translate lookup unknown items = .error e ↔
      ∃ label, FirstUnknown known (items.map (·.1)) label ∧ e = unknown label := by
  rw [translate_eq]
  constructor
  · intro h
    split at h
    · next label hf => exact ⟨label, (find?_isNone_eq_some_iff hk).mp hf, (Except.error.inj h).symm⟩
    · cases h
  · rintro ⟨label, hl, rfl⟩
    rw [(find?_isNone_eq_some_iff hk).mpr hl]

/-- There is a result if and only if all labels are known. -/
theorem exists_translate_iff :
    (∃ items', translate lookup unknown items = .ok items') ↔ ∀ item ∈ items, known item.1 := by
  have hall : (items.map (·.1)).find? (fun label => (lookup label).isNone) = none ↔
      ∀ item ∈ items, known item.1 := by
    simp [← hk, Option.isSome_iff_ne_none]
  rw [translate_eq, ← hall]
  cases (items.map (·.1)).find? fun label => (lookup label).isNone <;> simp

end

end Packet

/-! ### Building a configuration -/

/-- What a configuration is built from, beside its id and its fingerprint. -/
inductive PipeconfPart where
  | description (bytes : Bytes)
  | table (name : String) (id : UInt32)
  | packetMetadata (name : String) (number : UInt32)
deriving DecidableEq, Repr

namespace PipeconfPart

/-- The configuration with one more part. -/
def addTo (conf : Pipeconf) : PipeconfPart → Pipeconf
  | description bytes => { conf with description := bytes }
  | table name id => conf.withTable name id
  | packetMetadata name number => conf.withPacketMetadata name number

/-- The metadata field that a part gives a number to. -/
def field? : PipeconfPart → Option (String × UInt32)
  | packetMetadata name number => some (name, number)
  | _ => none

end PipeconfPart

/-- The number that a metadata field has been given last. -/
def lastNumber? (fields : List (String × UInt32)) (name : String) : Option UInt32 :=
  ((fields.filter fun field => decide (field.1 = name)).map (·.2)).getLast?

/-- A field has a number if and only if it has been given one. -/
theorem isSome_lastNumber?_iff {fields : List (String × UInt32)} {name : String} :
    (lastNumber? fields name).isSome = true ↔ name ∈ fields.map (·.1) := by
  rw [lastNumber?, List.getLast?_isSome, ne_eq, List.map_eq_nil_iff, List.filter_eq_nil_iff]
  simp

namespace Pipeconf

/-- The configuration of the given id and fingerprint that is built from parts, one after the other. -/
def ofParts (id : PipeconfId) (fingerprint : UInt64) (parts : List PipeconfPart) : Pipeconf :=
  parts.foldl PipeconfPart.addTo { id, fingerprint }

/-- The parts of a configuration add up to its metadata fields, and leave its name. -/
theorem foldl_addTo (parts : List PipeconfPart) (conf : Pipeconf) :
    (parts.foldl PipeconfPart.addTo conf).id = conf.id ∧
      (parts.foldl PipeconfPart.addTo conf).packetMetadata =
        (parts.filterMap (·.field?)).foldl (fun d field => d.insert field.1 field.2)
          conf.packetMetadata := by
  induction parts generalizing conf with
  | nil => exact ⟨rfl, rfl⟩
  | cons part rest ih =>
    cases part with
    | description bytes => exact ih { conf with description := bytes }
    | table name id => exact ih (conf.withTable name id)
    | packetMetadata name number => exact ih (conf.withPacketMetadata name number)

theorem id_ofParts (id : PipeconfId) (fingerprint : UInt64) (parts : List PipeconfPart) :
    (ofParts id fingerprint parts).id = id :=
  (foldl_addTo parts _).1

theorem packetMetadata_ofParts (id : PipeconfId) (fingerprint : UInt64) (parts : List PipeconfPart) :
    (ofParts id fingerprint parts).packetMetadata = .ofList (parts.filterMap (·.field?)) :=
  (foldl_addTo parts _).2

/-- A name stands for the number that it has been given last. -/
theorem metadataId?_ofParts (id : PipeconfId) (fingerprint : UInt64) (parts : List PipeconfPart)
    (name : String) :
    (ofParts id fingerprint parts).metadataId? name = lastNumber? (parts.filterMap (·.field?)) name := by
  rw [metadataId?, packetMetadata_ofParts, Directory.find?_ofList]
  rfl

/-- Where each name occurs once and no two have the same number, looking up names and looking up numbers
are inverse to each other. -/
theorem metadataName?_eq_some_iff {conf : Pipeconf} (hk : conf.packetMetadata.keys.Nodup)
    (hd : conf.packetMetadata.values.Nodup) {name : String} {number : UInt32} :
    conf.metadataName? number = some name ↔ conf.metadataId? name = some number := by
  rw [metadataId?, Directory.find?, Directory.findIn_eq_some_iff hk, metadataName?,
    Option.map_eq_some_iff]
  constructor
  · rintro ⟨⟨name', number'⟩, hf, rfl⟩
    have hnumber : number' = number := by simpa using List.find?_some hf
    exact hnumber ▸ List.mem_of_find?_eq_some hf
  · intro hm
    -- whatever entry is found has the same number, so it is the same entry
    obtain ⟨entry, hf⟩ : ∃ entry,
        conf.packetMetadata.entries.find? (fun entry => decide (entry.2 = number)) = some entry := by
      rw [← Option.isSome_iff_exists, List.find?_isSome]
      exact ⟨_, hm, by simp⟩
    have hnumber : entry.2 = number := by simpa using List.find?_some hf
    have hsame : entry = (name, number) :=
      List.inj_on_of_nodup_map hd (List.mem_of_find?_eq_some hf) hm hnumber
    exact ⟨entry, hf, by rw [hsame]⟩

end Pipeconf

/-! ### The two directions -/

namespace Packet

/-- A packet and its wire form, where metadata fields have been given numbers: the payload is the same, and
item by item the value is the same and the name stands for the number. -/
structure Matches (fields : List (String × UInt32)) (packet : Packet) (wire : WirePacket) : Prop where
  payload : packet.payload = wire.payload
  items : List.Forall₂ (fun item item' => lastNumber? fields item.1 = some item'.1 ∧ item.2 = item'.2)
    packet.metadata wire.metadata

/-- A mapped result is right when the result is. -/
theorem map_eq_ok_iff {ε α β : Type} {f : α → β} {x : Except ε α} {b : β} :
    x.map f = .ok b ↔ ∃ a, x = .ok a ∧ f a = b := by
  cases x <;> simp [Except.map]

/-- Mapping does not change whether there is a result. -/
theorem exists_map_eq_ok_iff {ε α β : Type} {f : α → β} {x : Except ε α} :
    (∃ b, x.map f = .ok b) ↔ ∃ a, x = .ok a := by
  cases x <;> simp [Except.map]

/-- Mapping does not change an error. -/
theorem map_eq_error_iff {ε α β : Type} {f : α → β} {x : Except ε α} {e : ε} :
    x.map f = .error e ↔ x = .error e := by
  cases x <;> simp [Except.map]

section

variable {id : PipeconfId} {fingerprint : UInt64} {parts : List PipeconfPart} {packet : Packet}
  {wire : WirePacket}

/-- A packet is encoded as its wire form when all its metadata is known. -/
theorem encode_eq_ok_iff :
    packet.encode (.ofParts id fingerprint parts) = .ok wire ↔
      packet.Matches (parts.filterMap (·.field?)) wire := by
  rw [encode, map_eq_ok_iff]
  simp only [encodeItems_eq, translate_eq_ok_iff, Pipeconf.metadataId?_ofParts]
  constructor
  · rintro ⟨items, hitems, rfl⟩
    exact ⟨rfl, hitems⟩
  · rintro ⟨hpayload, hitems⟩
    exact ⟨wire.metadata, hitems, by rw [hpayload]⟩

/-- A name is known if some field has it. -/
theorem isSome_metadataId?_iff (name : String) :
    ((Pipeconf.ofParts id fingerprint parts).metadataId? name).isSome = true ↔
      name ∈ (parts.filterMap (·.field?)).map (·.1) := by
  rw [Pipeconf.metadataId?_ofParts, isSome_lastNumber?_iff]

/-- A packet can be encoded if and only if all its names have been given numbers. -/
theorem exists_encode_iff :
    (∃ wire, packet.encode (.ofParts id fingerprint parts) = .ok wire) ↔
      ∀ item ∈ packet.metadata, item.1 ∈ (parts.filterMap (·.field?)).map (·.1) := by
  simp only [encode, exists_map_eq_ok_iff, encodeItems_eq]
  exact exists_translate_iff isSome_metadataId?_iff

/-- Otherwise the error is about the first name that has not. -/
theorem encode_eq_error_iff {e : ClientError} :
    packet.encode (.ofParts id fingerprint parts) = .error e ↔
      ∃ name, FirstUnknown (· ∈ (parts.filterMap (·.field?)).map (·.1)) (packet.metadata.map (·.1)) name ∧
        e = .unknownPacketMetadata id name := by
  rw [encode, map_eq_error_iff, encodeItems_eq, translate_eq_error_iff isSome_metadataId?_iff,
    Pipeconf.id_ofParts]

variable (hd : (Pipeconf.ofParts id fingerprint parts).packetMetadata.values.Nodup)

include hd

/-- The name of a number is the one that has this number last. -/
theorem metadataName?_ofParts {name : String} {number : UInt32} :
    (Pipeconf.ofParts id fingerprint parts).metadataName? number = some name ↔
      lastNumber? (parts.filterMap (·.field?)) name = some number := by
  rw [Pipeconf.metadataName?_eq_some_iff ?_ hd, Pipeconf.metadataId?_ofParts]
  rw [Pipeconf.packetMetadata_ofParts]
  exact Directory.nodup_keys_ofList _

/-- A number is known if some name has it last. -/
theorem isSome_metadataName?_iff (number : UInt32) :
    ((Pipeconf.ofParts id fingerprint parts).metadataName? number).isSome = true ↔
      ∃ name, lastNumber? (parts.filterMap (·.field?)) name = some number := by
  simp only [Option.isSome_iff_exists, metadataName?_ofParts hd]

/-- A wire form is decoded as its packet when all its metadata is known. -/
theorem decode_eq_ok_iff :
    Packet.decode (.ofParts id fingerprint parts) wire = .ok packet ↔
      packet.Matches (parts.filterMap (·.field?)) wire := by
  rw [decode, map_eq_ok_iff]
  simp only [decodeItems_eq, translate_eq_ok_iff, metadataName?_ofParts hd]
  constructor
  · rintro ⟨items, hitems, rfl⟩
    exact ⟨rfl, .flip (hitems.imp fun _ _ h => ⟨h.1, h.2.symm⟩)⟩
  · rintro ⟨hpayload, hitems⟩
    exact ⟨packet.metadata, .flip (hitems.imp fun _ _ h => ⟨h.1, h.2.symm⟩), by rw [← hpayload]⟩

/-- A wire packet can be decoded if and only if all its numbers are those of names. -/
theorem exists_decode_iff :
    (∃ packet, Packet.decode (.ofParts id fingerprint parts) wire = .ok packet) ↔
      ∀ item ∈ wire.metadata, ∃ name, lastNumber? (parts.filterMap (·.field?)) name = some item.1 := by
  simp only [decode, exists_map_eq_ok_iff, decodeItems_eq]
  exact exists_translate_iff (isSome_metadataName?_iff hd)

/-- Otherwise the error is about the first number that is not. -/
theorem decode_eq_error_iff {e : ClientError} :
    Packet.decode (.ofParts id fingerprint parts) wire = .error e ↔
      ∃ number, FirstUnknown (fun number => ∃ name, lastNumber? (parts.filterMap (·.field?)) name = some number)
          (wire.metadata.map (·.1)) number ∧
        e = .unknownPacketMetadata id ("#" ++ toString number) := by
  rw [decode, map_eq_error_iff, decodeItems_eq, translate_eq_error_iff (isSome_metadataName?_iff hd),
    Pipeconf.id_ofParts]

end

/-- Where no two metadata fields of a configuration have ended up with one number, encoding takes exactly
the packets all of whose names have been given numbers, and decoding exactly the wire packets all of whose
numbers are those that names have been given last.  Both keep the payload, and item by item the value.
What one makes of a packet the other takes back, and what they refuse they refuse for the first item that
is not known. -/
theorem metadata_translates (id : PipeconfId) (fingerprint : UInt64) (parts : List PipeconfPart)
    (hd : (Pipeconf.ofParts id fingerprint parts).packetMetadata.values.Nodup) :
    let conf := Pipeconf.ofParts id fingerprint parts
    let fields := parts.filterMap (·.field?)
    -- what is translated
    (∀ packet : Packet, (∃ wire, packet.encode conf = .ok wire) ↔
      ∀ item ∈ packet.metadata, item.1 ∈ fields.map (·.1)) ∧
    (∀ wire, (∃ packet, Packet.decode conf wire = .ok packet) ↔
      ∀ item ∈ wire.metadata, ∃ name, lastNumber? fields name = some item.1) ∧
    -- what becomes of it
    (∀ (packet : Packet) wire, packet.encode conf = .ok wire ↔ packet.Matches fields wire) ∧
    (∀ packet wire, Packet.decode conf wire = .ok packet ↔ packet.Matches fields wire) ∧
    (∀ (packet : Packet) wire, packet.encode conf = .ok wire ↔ Packet.decode conf wire = .ok packet) ∧
    -- what is refused
    (∀ (packet : Packet) e, packet.encode conf = .error e ↔
      ∃ name, FirstUnknown (· ∈ fields.map (·.1)) (packet.metadata.map (·.1)) name ∧
        e = .unknownPacketMetadata id name) ∧
    ∀ wire e, Packet.decode conf wire = .error e ↔
      ∃ number, FirstUnknown (fun number => ∃ name, lastNumber? fields name = some number)
          (wire.metadata.map (·.1)) number ∧
        e = .unknownPacketMetadata id ("#" ++ toString number) := by
  intro conf fields
  have encodes : ∀ (packet : Packet) wire, packet.encode conf = .ok wire ↔ packet.Matches fields wire :=
    fun _ _ => encode_eq_ok_iff
  have decodes : ∀ packet wire, Packet.decode conf wire = .ok packet ↔ packet.Matches fields wire :=
    fun _ _ => decode_eq_ok_iff hd
  refine ⟨fun _ => exists_encode_iff, fun _ => exists_decode_iff hd, encodes, decodes, fun packet wire => ?_,
    fun _ _ => encode_eq_error_iff, fun _ _ => decode_eq_error_iff hd⟩
  -- both mean that the two are one packet
  rw [encodes, decodes]

/-- A name that is given another number gives up the one it had: that one is not known any more. -/
theorem metadata_translates_renumbered :
    let parts : List PipeconfPart := [.packetMetadata "port" 1, .table "acl" 1, .packetMetadata "class" 2,
      .packetMetadata "port" 3]
    let conf := Pipeconf.ofParts ⟨"basic"⟩ 7 parts
    let packet : Packet := ⟨[0], [("class", [5]), ("port", [6]), ("class", [5])]⟩
    let wire : WirePacket := ⟨[0], [(2, [5]), (3, [6]), (2, [5])]⟩
    conf.packetMetadata.values.Nodup ∧ packet.encode conf = .ok wire ∧
      Packet.decode conf wire = .ok packet ∧
      Packet.decode conf ⟨[0], [(3, [6]), (1, [5])]⟩ = .error (.unknownPacketMetadata ⟨"basic"⟩ "#1") ∧
      (⟨[0], [("vlan", [1])]⟩ : Packet).encode conf = .error (.unknownPacketMetadata ⟨"basic"⟩ "vlan") := by
  intro parts conf packet wire
  have hd : conf.packetMetadata.values.Nodup := by decide
  obtain ⟨-, -, encodes, -, inverse, refuses, refuses'⟩ := metadata_translates ⟨"basic"⟩ 7 parts hd
  have hm : packet.encode conf = .ok wire :=
    (encodes packet wire).mpr ⟨rfl, by simp [packet, wire, parts]; decide⟩
  refine ⟨hd, hm, (inverse packet wire).mp hm, (refuses' _ _).mpr ⟨1, ⟨[3], [], rfl, ?_, ?_⟩, rfl⟩,
    (refuses _ _).mpr ⟨"vlan", ⟨[], [], rfl, by simp, by decide⟩, rfl⟩⟩
  · intro number hnumber
    exact ⟨"port", by rw [List.mem_singleton.mp hnumber]; decide⟩
  · exact fun hknown => absurd ((isSome_metadataName?_iff hd 1).mpr hknown) (by decide)

end Packet

end P4Control
