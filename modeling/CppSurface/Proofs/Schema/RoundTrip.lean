import CppSurface.Proofs.Json.RoundTrip
import CppSurface.Schema

/-!
# The published text determines the extraction

An extraction is published as JSON and read back by those who generate code from it.  Nothing is
lost on the way but the files of functions and value types, which are not written; reading gives
them the empty path.

Writer and reader of a part *agree* when what is written is plain JSON and is read as the part
without what is not written (`Json.Agree`).  Agreement passes from the parts to lists and to
nullable values.  It passes to a record because its fields have different names, so each is found
where it was put.  The text layer is then `Json.Plain.read_compact` and `Json.Plain.read_pretty`.
-/

namespace CppSurface

namespace Json

variable {α : Type} {write : α → Json} {read : Json → Option α} {keep : α → α}

/-! ## 1. Agreement -/

/-- **A writer and a reader agree**, up to what `keep` leaves of a value. -/
structure Agree (write : α → Json) (read : Json → Option α) (keep : α → α) : Prop where
  plain : ∀ a, Plain (write a)
  read_write : ∀ a, read (write a) = some (keep a)

theorem Agree.text : Agree text text? id := ⟨.text, fun _ => rfl⟩

theorem Agree.readAll_map (h : Agree write read keep) (as : List α) :
    readAll read (as.map write) = some (as.map keep) := by
  induction as with
  | nil => rfl
  | cons a as ih => simp [readAll, h.read_write, ih]

/-- A list is read item by item. -/
theorem Agree.list (h : Agree write read keep) :
    Agree (fun as => .array (as.map write)) (list? read) (List.map keep) where
  plain as := .array fun v hv => by
    obtain ⟨a, -, rfl⟩ := List.mem_map.mp hv
    exact h.plain a
  read_write as := h.readAll_map as

theorem Agree.texts : Agree texts texts? id := by
  have h := Agree.text.list
  rw [List.map_id_fun] at h
  exact h

/-- A value that is not null itself may be written as null or as it is. -/
theorem Agree.optional (h : Agree write read keep) (hne : ∀ a, write a ≠ .null) :
    Agree (optional write) (nullable? read) (Option.map keep) where
  plain a := by
    cases a with
    | none => exact .null
    | some a => exact h.plain a
  read_write a := by
    cases a with
    | none => rfl
    | some a => simp [Json.optional, nullable?, hne, h.read_write]

/-! ## 2. Records -/

variable {ms : List (String × Json)}

theorem plain_record (h : ∀ m ∈ ms, Plain m.2) : Plain (record ms) := by
  refine .object (fun m hm => ?_) (fun m hm => ?_)
  · obtain ⟨m, -, rfl⟩ := List.mem_map.mp hm
    rfl
  · obtain ⟨m, hmem, rfl⟩ := List.mem_map.mp hm
    exact h m hmem

/-- A field is found under its name. -/
theorem field?_of_mem (hnames : (ms.map Prod.fst).Nodup) {m : String × Json} (hm : m ∈ ms) :
    field? m.1 (ms.map fun m => (some m.1, m.2)) = some (some m.2) := by
  obtain ⟨before, after, rfl⟩ := List.append_of_mem hm
  simp only [List.map_append, List.map_cons, List.nodup_append, List.nodup_cons,
    List.mem_cons] at hnames
  obtain ⟨-, ⟨hafter, -⟩, hbefore⟩ := hnames
  have hb : before.filter (fun u => u.1 == m.1) = [] := by
    refine List.filter_eq_nil_iff.mpr fun u hu => ?_
    simpa using hbefore u.1 (List.mem_map_of_mem hu) m.1 (Or.inl rfl)
  have ha : after.filter (fun u => u.1 == m.1) = [] := by
    refine List.filter_eq_nil_iff.mpr fun u hu => ?_
    have hne : u.1 ≠ m.1 := fun h => hafter (h ▸ List.mem_map_of_mem hu)
    simpa using hne
  simp [field?, List.filter_append, List.filter_map, Function.comp_def, hb, ha]

theorem fieldValues?_of_subset (hnames : (ms.map Prod.fst).Nodup) {part : List (String × Json)}
    (h : part ⊆ ms) :
    fieldValues? (ms.map fun m => (some m.1, m.2)) (part.map Prod.fst)
      = some (part.map fun m => some m.2) := by
  induction part with
  | nil => rfl
  | cons m part ih =>
    obtain ⟨hm, hpart⟩ := List.cons_subset.mp h
    simp [fieldValues?, field?_of_mem hnames hm, ih hpart]

/-- **The fields of a record whose names differ are the values that were written.** -/
theorem fields?_record (hnames : (ms.map Prod.fst).Nodup) :
    (record ms).fields? (ms.map Prod.fst) = some (ms.map fun m => some m.2) := by
  have hkeys : (ms.map fun m => ((some m.1 : Option String), m.2)).all (fun m => m.1.isSome)
      = true := by simp
  rw [record, fields?, if_pos hkeys, fieldValues?_of_subset hnames (List.Subset.refl ms)]

end Json

/-! ## 3. What is not written -/

/-- A function without its file. -/
def FunctionRecord.blanked (f : FunctionRecord) : FunctionRecord :=
  { f with file := Schema.noFile }

/-- A value type without its file. -/
def ValueType.blanked (t : ValueType) : ValueType := { t with file := Schema.noFile }

/-- An entry whose functions and value types are without their files. -/
def FileEntry.blanked (e : FileEntry) : FileEntry :=
  { e with functions := e.functions.map .blanked, valueTypes := e.valueTypes.map .blanked }

/-- **An extraction whose functions and value types are without their files.** -/
def Extraction.blanked (x : Extraction) : Extraction := ⟨x.entries.map .blanked⟩

namespace Schema

open Json

/-! ## 4. The parts of an extraction -/

theorem agree_line : Agree lineJson uint32? id where
  plain line := .natural (by
    have := line.toNat_lt
    simp only [Reader.maxNatural]
    omega)
  read_write line := by
    have hle : line.toNat ≤ 4294967295 := by
      have := line.toNat_lt
      omega
    simp [lineJson, uint32?, naturalUpTo?, hle]

theorem agree_path : Agree pathJson path? id := ⟨fun p => .text p.text, fun _ => rfl⟩

theorem agree_file : Agree (optional pathJson) (nullable? path?) (Option.map id) :=
  agree_path.optional fun _ => by simp [pathJson, text]

theorem agree_lines : Agree (optional lineJson) (nullable? uint32?) (Option.map id) :=
  agree_line.optional fun _ => by simp [lineJson]

theorem agree_function : Agree functionJson function? FunctionRecord.blanked where
  plain f := plain_record (by
    simp [variableMembers, Agree.text.plain, Agree.texts.plain, agree_lines.plain])
  read_write f := by
    have hfields : (functionJson f).fields? functionFields = some _ :=
      fields?_record (show functionFields.Nodup by decide)
    simp [function?, hfields, variableMembers, required?, optional?, Agree.text.read_write,
      Agree.texts.read_write, agree_lines.read_write, FunctionRecord.blanked]

theorem agree_constructor : Agree constructorJson constructor? id where
  plain c := plain_record (by simp [variableMembers, Agree.texts.plain, agree_line.plain])
  read_write c := by
    have hfields : (constructorJson c).fields? constructorFields = some _ :=
      fields?_record (show constructorFields.Nodup by decide)
    simp [constructor?, hfields, variableMembers, required?, Agree.texts.read_write,
      agree_line.read_write]

theorem agree_valueType : Agree valueTypeJson valueType? ValueType.blanked where
  plain t := plain_record (by
    simp [variableMembers, Agree.text.plain, Agree.texts.plain, agree_line.plain,
      agree_constructor.list.plain])
  read_write t := by
    have hfields : (valueTypeJson t).fields? valueTypeFields = some _ :=
      fields?_record (show valueTypeFields.Nodup by decide)
    simp [valueType?, hfields, variableMembers, required?, Agree.text.read_write,
      Agree.texts.read_write, agree_line.read_write, agree_constructor.list.read_write,
      ValueType.blanked]

theorem agree_entry : Agree entryJson entry? FileEntry.blanked where
  plain e := plain_record (by
    simp [agree_file.plain, agree_function.list.plain, agree_valueType.list.plain,
      agree_path.list.plain])
  read_write e := by
    have hfields : (entryJson e).fields? entryFields = some _ :=
      fields?_record (show entryFields.Nodup by decide)
    simp [hfields, entry?, required?, optional?, agree_file.read_write,
      agree_function.list.read_write, agree_valueType.list.read_write, agree_path.list.read_write,
      FileEntry.blanked]

/-! ## 5. The extraction and its text -/

/-- An extraction is written as plain JSON and read without the files of its records. -/
theorem agree_extraction : Agree toJson ofJson? Extraction.blanked where
  plain x := agree_entry.list.plain x.entries
  read_write x := by
    simp [ofJson?, toJson, agree_entry.list.read_write, Extraction.blanked]

/-- The files of functions and value types are not written. -/
theorem toJson_blanked (x : Extraction) : toJson x.blanked = toJson x := by
  have hfunction : functionJson ∘ FunctionRecord.blanked = functionJson := rfl
  have htype : valueTypeJson ∘ ValueType.blanked = valueTypeJson := rfl
  have hentry : entryJson ∘ FileEntry.blanked = entryJson := funext fun e => by
    simp [entryJson, FileEntry.blanked, hfunction, htype]
  simp [toJson, Extraction.blanked, hentry]

/-- **Reading undoes writing**, in both layouts and up to the files of the records; and what was
read is written as before. -/
theorem parse_written (x : Extraction) :
    parse? (compact x) = some x.blanked ∧ parse? (pretty x) = some x.blanked ∧
      compact x.blanked = compact x := by
  have hplain := agree_extraction.plain x
  have hread := agree_extraction.read_write x
  refine ⟨?_, ?_, ?_⟩
  · rw [parse?, compact, hplain.read_compact]
    exact hread
  · rw [parse?, pretty, hplain.read_pretty]
    exact hread
  · rw [compact, toJson_blanked, compact]

end Schema

end CppSurface
