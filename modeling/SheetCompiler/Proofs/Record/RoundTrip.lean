import SheetCompiler.Proofs.Record.Reader

/-!
# The round trip of record sets

Decoding gives back every encoded record set whose lengths can be written, and
ignores the bytes after it. A record set fits as soon as its own bytes are few
enough to be counted.
-/

set_option autoImplicit false

namespace SheetCompiler

/-- The lengths in a value can be written. -/
inductive Value.Fits : Value → Prop where
  | null : Fits .null
  | bool {value : Bool} : Fits (.bool value)
  | int {value : Int64} : Fits (.int value)
  | uint {value : UInt64} : Fits (.uint value)
  | float {value : Binary64} : Fits (.float value)
  | text {value : String} : Wire.TextFits value → Fits (.text value)
  | list {items : List Value} :
      items.length < 2 ^ 64 → (∀ item ∈ items, Fits item) → Fits (.list items)
  | pairs {entries : List (Value × Value)} :
      entries.length < 2 ^ 64 → (∀ entry ∈ entries, Fits entry.1) →
      (∀ entry ∈ entries, Fits entry.2) → Fits (.pairs entries)

structure RecordSet.Fits (records : RecordSet) : Prop where
  table : Wire.TextFits records.table
  nameSpace : Wire.TextFits records.nameSpace
  fieldCount : records.fields.length < 2 ^ 64
  fieldNames : ∀ field ∈ records.fields, Wire.TextFits field.name
  rowCount : records.rows.length < 2 ^ 64
  rowWidths : ∀ row ∈ records.rows, row.length < 2 ^ 64
  values : ∀ row ∈ records.rows, ∀ value ∈ row, value.Fits

namespace Wire

/-! ## Types -/

theorem reads_writeBase (base : BaseType) : Reads readBase (writeBase base) base := by
  intro rest
  have small : BaseType.all.idxOf base < 251 := by cases base <;> decide
  have found : BaseType.all[BaseType.all.idxOf base]? = some base := by cases base <;> decide
  rw [readBase, writeBase, reads_small small]
  simp only [Option.bind_eq_bind, Option.bind_some, found]
  rfl

theorem reads_writeType (type : FieldType) : Reads readType (writeType type) type := by
  intro rest
  cases type with
  | scalar base | array base | matrix base =>
      rw [readType, writeType, List.append_assoc, reads_small (by decide)]
      simp only [Option.bind_eq_bind, Option.bind_some, readBaseOnly, reads_writeBase base rest]
      rfl
  | map key value | pairs key value =>
      rw [readType, writeType, List.append_assoc, List.append_assoc, reads_small (by decide)]
      simp only [Option.bind_eq_bind, Option.bind_some, readBasePair,
        reads_writeBase key (writeBase value ++ rest), reads_writeBase value rest]
      rfl

/-! ## Values -/

def writeEntry (entry : Value × Value) : List UInt8 := writeValue entry.1 ++ writeValue entry.2

theorem writeValues_eq_flatMap (items : List Value) :
    writeValues items = items.flatMap writeValue := by
  induction items with
  | nil => rfl
  | cons item items ih => rw [writeValues, ih, List.flatMap_cons]

theorem writeEntries_eq_flatMap (entries : List (Value × Value)) :
    writeEntries entries = entries.flatMap writeEntry := by
  induction entries with
  | nil => rfl
  | cons entry entries ih =>
      rw [writeEntries, ih, List.flatMap_cons, writeEntry]

theorem writeValue_ne_nil (value : Value) : writeValue value ≠ [] := by
  cases value with
  | null => exact writeNat_ne_nil 0
  | bool | int | uint | float | text =>
      exact List.append_ne_nil_of_left_ne_nil (writeNat_ne_nil _) _
  | list items =>
      rw [writeValue, List.append_assoc]
      exact List.append_ne_nil_of_left_ne_nil (writeNat_ne_nil _) _
  | pairs entries =>
      rw [writeValue, List.append_assoc]
      exact List.append_ne_nil_of_left_ne_nil (writeNat_ne_nil _) _

theorem reads_readEntry {read : Reader Value} {entry : Value × Value}
    (key : Reads read (writeValue entry.1) entry.1)
    (value : Reads read (writeValue entry.2) entry.2) :
    Reads (readEntry read) (writeEntry entry) entry := by
  intro rest
  rw [readEntry, writeEntry, List.append_assoc, key]
  simp only [Option.bind_eq_bind, Option.bind_some, value rest]
  rfl

/-- A reader of values needs fuel, since no value is without bytes. -/
theorem exists_fuel {value : Value} {fuel : Nat} (enough : (writeValue value).length ≤ fuel) :
    ∃ less, fuel = less + 1 := by
  have positive := List.length_pos_iff.mpr (writeValue_ne_nil value)
  exact ⟨fuel - 1, by omega⟩

/-- What comes after the number of an alternative has less bytes than the whole. -/
theorem length_le_of_tagged {tag count fuel : Nat} {bytes part : List UInt8}
    (enough : (writeNat tag ++ writeNat count ++ bytes).length ≤ fuel + 1)
    (within : part.length ≤ bytes.length) : part.length ≤ fuel := by
  have positive := List.length_pos_iff.mpr (writeNat_ne_nil tag)
  rw [List.length_append, List.length_append] at enough
  omega

/-- A value is read with as much fuel as it has bytes, whatever follows them. The
induction is on the nesting of the value. -/
theorem reads_readValueWithin {value : Value} (fits : value.Fits) {fuel : Nat}
    (enough : (writeValue value).length ≤ fuel) :
    Reads (readValueWithin fuel) (writeValue value) value := by
  induction fits generalizing fuel with
  | null =>
      intro rest
      obtain ⟨less, rfl⟩ := exists_fuel enough
      rw [readValueWithin, writeValue, reads_small (by decide)]
      rfl
  | @bool value =>
      intro rest
      obtain ⟨less, rfl⟩ := exists_fuel enough
      rw [readValueWithin, writeValue, List.append_assoc, reads_small (by decide)]
      cases value <;> rfl
  | @int value =>
      intro rest
      obtain ⟨less, rfl⟩ := exists_fuel enough
      rw [readValueWithin, writeValue, List.append_assoc, reads_small (by decide)]
      simp only [Option.bind_eq_bind, Option.bind_some, Option.map_some,
        reads_writeNat (zigZag_toInt_lt value) rest, unZigZag_zigZag, Int64.ofInt_toInt]
  | @uint value =>
      intro rest
      obtain ⟨less, rfl⟩ := exists_fuel enough
      rw [readValueWithin, writeValue, List.append_assoc, reads_small (by decide)]
      simp only [Option.bind_eq_bind, Option.bind_some, Option.map_some,
        reads_writeNat value.toNat_lt rest, UInt64.ofNat_toNat]
  | @float value =>
      intro rest
      obtain ⟨less, rfl⟩ := exists_fuel enough
      rw [readValueWithin, writeValue, List.append_assoc, reads_small (by decide)]
      simp only [Option.bind_eq_bind, Option.bind_some, Option.map_some,
        reads_littleEndian 8 value.bits.toNat_lt rest, UInt64.ofNat_toNat]
  | @text value short =>
      intro rest
      obtain ⟨less, rfl⟩ := exists_fuel enough
      rw [readValueWithin, writeValue, List.append_assoc, reads_small (by decide)]
      simp only [Option.bind_eq_bind, Option.bind_some, Option.map_some,
        reads_writeText short rest]
  | @list items short _ ih =>
      intro rest
      obtain ⟨less, rfl⟩ := exists_fuel enough
      -- the fuel that is left still covers the bytes of every single element
      have each : ∀ item ∈ items, Reads (readValueWithin less) (writeValue item) item := by
        intro item member
        rw [writeValue, writeValues_eq_flatMap] at enough
        exact ih item member (length_le_of_tagged enough (length_le_flatMap _ member))
      have whole := reads_writeList short each rest
      rw [writeList, ← writeValues_eq_flatMap] at whole
      rw [readValueWithin, writeValue, List.append_assoc, List.append_assoc,
        reads_small (by decide)]
      rw [List.append_assoc] at whole
      simp only [Option.bind_eq_bind, Option.bind_some, Option.map_some, whole]
  | @pairs entries short _ _ keys values =>
      intro rest
      obtain ⟨less, rfl⟩ := exists_fuel enough
      have each : ∀ entry ∈ entries,
          Reads (readEntry (readValueWithin less)) (writeEntry entry) entry := by
        intro entry member
        rw [writeValue, writeEntries_eq_flatMap] at enough
        have both := length_le_of_tagged enough (length_le_flatMap _ member)
        rw [writeEntry, List.length_append] at both
        exact reads_readEntry (keys entry member (by omega)) (values entry member (by omega))
      have whole := reads_writeList short each rest
      rw [writeList, ← writeEntries_eq_flatMap] at whole
      rw [readValueWithin, writeValue, List.append_assoc, List.append_assoc,
        reads_small (by decide)]
      rw [List.append_assoc] at whole
      simp only [Option.bind_eq_bind, Option.bind_some, Option.map_some, whole]

theorem reads_readValue {value : Value} (fits : value.Fits) :
    Reads readValue (writeValue value) value := by
  intro rest
  have enough : (writeValue value).length ≤ (writeValue value ++ rest).length := by
    rw [List.length_append]
    exact Nat.le_add_right _ _
  exact reads_readValueWithin fits enough rest

/-! ## Record sets -/

theorem reads_writeField {field : RecordField} (fits : TextFits field.name) :
    Reads readField (writeField field) field := by
  intro rest
  rw [readField, writeField, List.append_assoc, reads_writeText fits]
  simp only [Option.bind_eq_bind, Option.bind_some, reads_writeType field.type rest]
  rfl

theorem reads_encode {records : RecordSet} (fits : records.Fits) :
    Reads readRecords (encode records) records := by
  intro rest
  have fields := reads_writeList fits.fieldCount fun field member =>
    reads_writeField (fits.fieldNames field member)
  have rows := reads_writeList fits.rowCount fun row member =>
    reads_writeList (fits.rowWidths row member) fun value present =>
      reads_readValue (fits.values row member value present)
  rw [readRecords, encode, List.append_assoc, List.append_assoc, List.append_assoc,
    reads_writeText fits.table]
  simp only [Option.bind_eq_bind, Option.bind_some]
  rw [reads_writeText fits.nameSpace]
  simp only [Option.bind_some]
  rw [fields]
  simp only [Option.bind_some]
  rw [rows]
  rfl

/-! ## Countable bytes -/

mutual

theorem fits_of_length_writeValue :
    (value : Value) → (writeValue value).length < 2 ^ 64 → value.Fits
  | .null, _ => .null
  | .bool _, _ => .bool
  | .int _, _ => .int
  | .uint _, _ => .uint
  | .float _, _ => .float
  | .text value, short => by
      rw [writeValue, List.length_append] at short
      exact .text (textFits_of_length (by omega))
  | .list items, short => by
      rw [writeValue, List.length_append] at short
      have few : (writeValues items).length < 2 ^ 64 := by omega
      have count : items.length ≤ (items.flatMap writeValue).length :=
        length_le_length_flatMap fun item _ => writeValue_ne_nil item
      rw [← writeValues_eq_flatMap] at count
      exact .list (by omega) (fits_of_length_writeValues items few)
  | .pairs entries, short => by
      rw [writeValue, List.length_append] at short
      have few : (writeEntries entries).length < 2 ^ 64 := by omega
      have count : entries.length ≤ (entries.flatMap writeEntry).length :=
        length_le_length_flatMap fun entry _ =>
          List.append_ne_nil_of_left_ne_nil (writeValue_ne_nil entry.1) _
      rw [← writeEntries_eq_flatMap] at count
      have each := fits_of_length_writeEntries entries few
      exact .pairs (by omega) (fun entry member => (each entry member).1)
        (fun entry member => (each entry member).2)

theorem fits_of_length_writeValues :
    (items : List Value) → (writeValues items).length < 2 ^ 64 → ∀ item ∈ items, item.Fits
  | [], _ => nofun
  | item :: items, short => by
      rw [writeValues, List.length_append] at short
      intro other member
      rcases List.mem_cons.mp member with same | later
      · rw [same]
        exact fits_of_length_writeValue item (by omega)
      · exact fits_of_length_writeValues items (by omega) other later

theorem fits_of_length_writeEntries :
    (entries : List (Value × Value)) → (writeEntries entries).length < 2 ^ 64 →
      ∀ entry ∈ entries, entry.1.Fits ∧ entry.2.Fits
  | [], _ => nofun
  | (key, value) :: entries, short => by
      rw [writeEntries, List.length_append, List.length_append] at short
      intro other member
      rcases List.mem_cons.mp member with same | later
      · rw [same]
        exact ⟨fits_of_length_writeValue key (by omega), fits_of_length_writeValue value (by omega)⟩
      · exact fits_of_length_writeEntries entries (by omega) other later

end

/-- A list in a record set has no more elements than the record set has bytes. -/
theorem length_lt_of_writeList {α : Type} {write : α → List UInt8} {items : List α}
    (nonEmpty : ∀ item ∈ items, write item ≠ [])
    (short : (writeList write items).length < 2 ^ 64) : items.length < 2 ^ 64 := by
  have count := length_le_length_flatMap nonEmpty
  rw [writeList, List.length_append] at short
  omega

theorem length_lt_of_mem_writeList {α : Type} {write : α → List UInt8} {items : List α} {item : α}
    (short : (writeList write items).length < 2 ^ 64) (member : item ∈ items) :
    (write item).length < 2 ^ 64 := by
  have within := length_le_flatMap write member
  rw [writeList, List.length_append] at short
  omega

theorem fits_of_length_encode {records : RecordSet} (short : (encode records).length < 2 ^ 64) :
    records.Fits := by
  rw [encode, List.length_append, List.length_append, List.length_append] at short
  have fields : (writeList writeField records.fields).length < 2 ^ 64 := by omega
  have rows : (writeList (writeList writeValue) records.rows).length < 2 ^ 64 := by omega
  constructor
  · exact textFits_of_length (by omega)
  · exact textFits_of_length (by omega)
  · exact length_lt_of_writeList
      (fun field _ => List.append_ne_nil_of_left_ne_nil (writeText_ne_nil field.name) _) fields
  · intro field member
    have within := length_lt_of_mem_writeList fields member
    rw [writeField, List.length_append] at within
    exact textFits_of_length (by omega)
  · exact length_lt_of_writeList (fun row _ => writeList_ne_nil writeValue row) rows
  · intro row member
    exact length_lt_of_writeList (fun value _ => writeValue_ne_nil value)
      (length_lt_of_mem_writeList rows member)
  · intro row member value present
    exact fits_of_length_writeValue value
      (length_lt_of_mem_writeList (length_lt_of_mem_writeList rows member) present)

/-- A payload that fits into a memory of 64 bits is decoded to the records that it holds. -/
theorem decode_encode {records : RecordSet} (short : (encode records).length < 2 ^ 64) :
    decode? (encode records) = some records := by
  have read := reads_encode (fits_of_length_encode short) []
  rw [List.append_nil] at read
  rw [decode?, read]
  rfl

/-- Decoding gives back an encoded record set, whatever bytes follow it. Numbers are
written in the least of the forms that hold them, integers alternate between even
and odd naturals, and a number of double precision is its eight bytes. -/
theorem decode_encode_append (records : RecordSet) (fits : records.Fits) (rest : List UInt8) :
    decode? (encode records ++ rest) = some records ∧
    (∀ n, n < 2 ^ 64 → NatForm n (writeNat n)) ∧
    (∀ n : Int64, zigZag n.toInt < 2 ^ 64 ∧
      (zigZag n.toInt : Int) = if 0 ≤ n.toInt then 2 * n.toInt else -2 * n.toInt - 1) ∧
    (∀ x : Binary64, ∃ digits, writeValue (.float x) = 4 :: digits ∧ digits.length = 8 ∧
      Nat.ofDigits 256 (digits.map UInt8.toNat) = x.bits.toNat) := by
  refine ⟨?_, fun n short => natForm_writeNat short,
    fun n => ⟨zigZag_toInt_lt n, zigZag_eq n.toInt⟩, fun x => ?_⟩
  · rw [decode?, reads_encode fits rest]
    rfl
  · exact ⟨littleEndian 8 x.bits.toNat, rfl, length_littleEndian 8 _,
      ofDigits_littleEndian 8 x.bits.toNat_lt⟩

/-- The round trip of a row with a list of pairs, a blank cell and a natural number of
two bytes. -/
theorem decode_encode_append_nested :
    let records : RecordSet := ⟨"Item", "Game", [⟨"Stats", .map .string .int64⟩],
      [[.list [.pairs [(.text "hp", .int (-9223372036854775808))], .null, .uint 251]]]⟩
    records.Fits ∧ decode? (encode records ++ [255]) = some records := by
  intro records
  have short : (encode records).length < 2 ^ 64 := by decide +kernel
  have fits : records.Fits := fits_of_length_encode short
  exact ⟨fits, (decode_encode_append records fits [255]).1⟩

end Wire

end SheetCompiler
