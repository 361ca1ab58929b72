import Tftp.Proofs.Document.Lines

/-! # The format of settings documents is faithful

The root table of a document of sections is written section by section. Each single value is found
again when its line is read (`exists_single`), each section when its entries are
(`exists_section`), and so the whole table, with its entries in their order
(`exists_write_read`). -/

namespace Tftp.Toml

theorem entryNodes_eq_map (es : Entries) : entryNodes es = es.map fun e => (e.1, e.2.node) := by
  induction es with
  | nil => rfl
  | cons e es ih => rw [entryNodes, ih, List.map_cons]

/-- A partial inverse of `back` that has a value for each item has one for the list of them. -/
theorem exists_mapM_eq_some {α β : Type} {f : α → Option β} {back : β → α} {Sound : β → Prop}
    {as : List α} (each : ∀ a ∈ as, ∃ b, f a = some b ∧ back b = a ∧ Sound b) :
    ∃ bs, as.mapM f = some bs ∧ bs.map back = as ∧ ∀ b ∈ bs, Sound b := by
  induction as with
  | nil => exact ⟨[], rfl, rfl, nofun⟩
  | cons a as ih =>
    rw [List.forall_mem_cons] at each
    obtain ⟨b, some, rfl, sound⟩ := each.1
    obtain ⟨bs, somes, rfl, sounds⟩ := ih each.2
    refine ⟨b :: bs, ?_, rfl, List.forall_mem_cons.mpr ⟨sound, sounds⟩⟩
    rw [List.mapM_cons, some, somes]
    rfl

/-! ### Values and sections -/

theorem exists_single {node : Node} (single : node.IsSingle) :
    ∃ x, Single.ofNode? node = some x ∧ x.value.node = node ∧ x.Sound := by
  cases node with
  | text content => exact ⟨.text content, rfl, rfl, trivial⟩
  | flag b => exact ⟨.flag b, rfl, rfl, trivial⟩
  | integer n =>
    obtain ⟨low, high⟩ := single
    have back : (n.toNat : Int) = n := Int.toNat_of_nonneg low
    have small : n.toNat < 0x8000000000000000 := by omega
    exact ⟨.number n.toNat, if_pos low, congrArg Node.integer back, small⟩
  | _ => exact single.elim

/-- The entry of the section in the root table that is read. -/
def WrittenSection.entryNode (s : WrittenSection) : String × Node := (s.name, s.entry.2.node)

theorem WrittenSection.entryNode_eq (s : WrittenSection) :
    s.entryNode =
      (s.name, .table (s.settings.map fun setting => (setting.1, setting.2.value.node))) := by
  simp [entryNode, entry, Value.node, entryNodes_eq_map, Function.comp_def]

theorem exists_section {e : String × Node} (name : Bare e.1) (isSection : e.2.IsSection) :
    ∃ s, WrittenSection.ofEntry? e = some s ∧ s.entryNode = e ∧ s.Sound := by
  obtain ⟨name', node⟩ := e
  obtain ⟨keys, single⟩ := isSection
  next es =>
  have each : ∀ e ∈ es, ∃ setting : String × Single,
      (Single.ofNode? e.2).map (fun value => (e.1, value)) = some setting ∧
        (setting.1, setting.2.value.node) = e ∧ Bare setting.1 ∧ setting.2.Sound := by
    intro e mem
    obtain ⟨x, some, back, sound⟩ := exists_single (single e mem)
    exact ⟨(e.1, x), by rw [some]; rfl, by rw [back], keys.bare e mem, sound⟩
  obtain ⟨settings, some, back, sound⟩ := exists_mapM_eq_some each
  refine ⟨⟨name', settings⟩, ?_, ?_, name, sound, ?_⟩
  · rw [WrittenSection.ofEntry?, some]
    rfl
  · rw [WrittenSection.entryNode_eq, back]
  · have nodup := keys.nodup
    rw [← back, List.map_map] at nodup
    exact nodup

/-! ### Documents -/

theorem read_of_parse? {text : String} {es : Entries} (h : parse? text = some es) :
    format.read text = some (entryNodes es) := congrArg (Option.map entryNodes) h

/-- A document of sections is written, and read as it is. -/
theorem exists_write_read {d : Table} (isDocument : IsDocument d) :
    ∃ text, format.write d = some text ∧ format.read text = some d := by
  have each : ∀ e ∈ d, ∃ s, WrittenSection.ofEntry? e = some s ∧ s.entryNode = e ∧ s.Sound :=
    fun e mem => exists_section (isDocument.keys.bare e mem) (isDocument.sections e mem)
  obtain ⟨ss, some, back, sound⟩ := exists_mapM_eq_some each
  have names : (ss.map WrittenSection.name).Nodup := by
    have nodup := isDocument.keys.nodup
    rw [← back, List.map_map] at nodup
    exact nodup
  refine ⟨String.ofList (document ss), ?_, ?_⟩
  · change write d = _
    rw [write, some, Option.map_some]
  · rw [read_of_parse? (parse?_document sound names), entryNodes_eq_map, List.map_map]
    exact congrArg Option.some back

theorem format_faithful : format.Faithful where
  writes isDocument := by
    obtain ⟨text, written, -⟩ := exists_write_read isDocument
    exact ⟨text, written⟩
  reads isDocument written := by
    obtain ⟨text, written', read⟩ := exists_write_read isDocument
    rw [written'] at written
    exact ⟨_, Option.some.inj written ▸ read, isDocument.same⟩

end Tftp.Toml
