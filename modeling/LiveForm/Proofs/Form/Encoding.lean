import LiveForm.Form.Snapshot
import LiveForm.Proofs.Schema.Encoding

/-!
# Snapshots written and read back

A snapshot that is written as a document is read back as it was. A placeholder and a list of options
are left out when there is nothing to write, and a title that is missing is written as `null`; what
is read in their place is again nothing. Values are any JSON values, and are written as they are.
-/

namespace LiveForm

theorem RuleKind.decode_toJson (k : RuleKind) : decode k.toJson = .ok k := by
  rw [toJson, decode, Decoder.choice, named?_name]
  rfl

namespace FieldView

structure ReadFrom (entries : Json.Entries) (v : FieldView) : Prop where
  name : Attr.name.ReadsAs entries v.name
  label : Attr.label.ReadsAs entries v.label
  type : Attr.type.ReadsAs entries v.type
  placeholder : Attr.placeholder.ReadsAs entries v.placeholder
  options : Attr.options.ReadsAs entries v.options
  hidden : Attr.hidden.ReadsAs entries v.hidden
  readonly : Attr.readonly.ReadsAs entries v.readonly
  required : Attr.required.ReadsAs entries v.required
  value : Attr.value.ReadsAs entries v.value
  disabled : Attr.disabled.ReadsAs entries v.disabled
  touched : Attr.touched.ReadsAs entries v.touched
  errors : Attr.errors.ReadsAs entries v.errors
  message : Attr.message.ReadsAs entries v.message

theorem ReadFrom.decode_eq {entries : Json.Entries} {v : FieldView} (read : ReadFrom entries v) :
    decode (.object entries) = .ok v := by
  rw [decode, Record.enter_bind_eq_ok_iff (by decide)]
  simp only [Record.take_bind_eq_ok_iff, Record.finish_bind, List.forall_mem_cons, pure,
    Except.pure, Except.ok.injEq]
  exact ⟨⟨read.name.sound, read.label.sound, read.type.sound, read.placeholder.sound,
    read.options.sound, read.hidden.sound, read.readonly.sound, read.required.sound,
    read.value.sound, read.disabled.sound, read.touched.sound, read.errors.sound,
    read.message.sound, by simp⟩, _, read.name.found, _, read.label.found, _, read.type.found, _,
    read.placeholder.found, _, read.options.found, _, read.hidden.found, _, read.readonly.found, _,
    read.required.found, _, read.value.found, _, read.disabled.found, _, read.touched.found, _,
    read.errors.found, _, read.message.found, rfl⟩

theorem decode_toJson (v : FieldView) : decode v.toJson = .ok v := by
  refine ReadFrom.decode_eq ⟨?_, ?_, ?_, ?_, ?_, ?_, ?_, ?_, ?_, ?_, ?_, ?_, ?_⟩
  · exact .of_given (.string v.name) (by simp) rfl
  · exact .of_given (.string v.label) (by simp) rfl
  · exact .of_given v.type.toJson (by simp) v.type.decode_toJson
  · exact .of_nullable_same .string v.placeholder (by simp) fun _ => rfl
  · exact .of_unless_empty v.options (.ofStrings v.options) (by simp)
      (Decoder.list_ofStrings v.options)
  · exact .of_given (.bool v.hidden) (by simp) rfl
  · exact .of_given (.bool v.readonly) (by simp) rfl
  · exact .of_given (.bool v.required) (by simp) rfl
  · exact .of_given v.value (by simp) rfl
  · exact .of_given (.bool v.disabled) (by simp) rfl
  · exact .of_given (.bool v.touched) (by simp) rfl
  · exact .of_given (.array (v.errors.map RuleKind.toJson)) (by simp)
      (Decoder.list_map_same RuleKind.decode_toJson v.errors)
  · exact .of_given (.string v.message) (by simp) rfl

end FieldView

namespace Snapshot

structure ReadFrom (entries : Json.Entries) (s : Snapshot) : Prop where
  title : Attr.title.ReadsAs entries s.title
  fields : Attr.fields.ReadsAs entries s.fields
  valid : Attr.valid.ReadsAs entries s.valid

theorem ReadFrom.decode_eq {entries : Json.Entries} {s : Snapshot} (read : ReadFrom entries s) :
    decode (.object entries) = .ok s := by
  rw [decode, Record.enter_bind_eq_ok_iff (by decide)]
  simp only [Record.take_bind_eq_ok_iff, Record.finish_bind, List.forall_mem_cons, pure,
    Except.pure, Except.ok.injEq]
  exact ⟨⟨read.title.sound, read.fields.sound, read.valid.sound, by simp⟩, _, read.title.found, _,
    read.fields.found, _, read.valid.found, rfl⟩

theorem decode_toJson (s : Snapshot) : decode s.toJson = .ok s := by
  refine ReadFrom.decode_eq ⟨?_, ?_, ?_⟩
  · exact .of_given ((s.title.map Json.string).getD .null) (by simp) (by cases s.title <;> rfl)
  · exact .of_given (.array (s.fields.map FieldView.toJson)) (by simp)
      (Decoder.list_map_same FieldView.decode_toJson s.fields)
  · exact .of_given (.bool s.valid) (by simp) rfl

end Snapshot

/-- Whatever the form and the schema, a snapshot that is written is read back as it was, and so is
each of its entries. -/
theorem Form.snapshot_read_back (f : Form) (schema : Schema) :
    let s := f.snapshot schema
    Snapshot.decode s.toJson = .ok s ∧
      ∀ entry ∈ s.fields, FieldView.decode entry.toJson = .ok entry :=
  ⟨Snapshot.decode_toJson _, fun entry _ => entry.decode_toJson⟩

end LiveForm
