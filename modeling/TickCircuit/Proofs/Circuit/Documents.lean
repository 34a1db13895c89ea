import TickCircuit.Proofs.Circuit.Acceptance
import TickCircuit.Proofs.Circuit.Integrity

/-!
# Documents of Circuits

The rules by which a circuit is edited and the rules by which a document is accepted are separate
definitions. They agree: the document of an integral circuit breaks no rule (`document_accepted`), and
it takes less than integrity to see it (`document_accepted_of_sound`). Each condition of soundness is one
of the conditions under which a document is well-formed.
-/

namespace TickCircuit

namespace Validation

/-- The document of a component describes it. -/
theorem describes_toDocument {x : Component} {kind : Kind} (known : x.type = .known kind)
    (key : x.id.isKey = true) : DescribesComponent x.toDocument x.id kind where
  scalar := key
  id := x.field_id
  type := by
    rw [x.field_type, known]
    rfl
  settings := by
    intro s found
    rw [x.field_settings] at found
    cases found
    rfl

section Sound

variable {c : Circuit}

/-- A component of a sound circuit is described under its key. -/
theorem describes_of_sound (h : c.Sound) {e : Value × Component} (he : e ∈ c.components) :
    ∃ kind, e.2.type = .known kind ∧ DescribesComponent e.2.toDocument e.1 kind := by
  obtain ⟨id, key⟩ := h.keyed _ (List.mem_map_of_mem he)
  obtain ⟨kind, known⟩ := h.known _ (List.mem_map_of_mem he)
  change e.2.id = e.1 at id
  rw [← id] at key ⊢
  exact ⟨kind, known, describes_toDocument known key⟩

/-- A pin that the roster of a sound circuit has is a pin of a component of its document. -/
theorem endsAt_of_sound (h : c.Sound) {pins : Kind → List String} {idField pinField : String}
    {v id pin : Value} (idIs : v.field idField = .ok id) (pinIs : v.field pinField = .ok pin)
    {r : Value × ComponentType} (found : c.roster.find? id = some r)
    (isPin : ∀ kind, r.2 = .known kind → ((pins kind).any fun p => pin.isText p) = true) :
    EndsAt (c.components.map fun e => e.2.toDocument) pins idField pinField v := by
  rw [Circuit.find?_roster] at found
  obtain ⟨x, there, rfl⟩ := Option.map_eq_some_iff.1 found
  obtain ⟨key, member, same⟩ := Table.mem_of_find? there
  obtain ⟨kind, known, described⟩ := describes_of_sound h member
  obtain ⟨name, rfl, listed⟩ := any_isText.1 (isPin kind known)
  exact ⟨id, name, idIs, pinIs, x.toDocument, List.mem_map_of_mem member, key, kind, described, same,
    listed⟩

theorem wellFormed_of_sound (h : c.Sound) : WellFormed c.toDocument := by
  refine ⟨c.components.map fun e => e.2.toDocument, c.wires.map Wire.toDocument, rfl, rfl, ?_, ?_, ?_⟩
  · refine List.forall_mem_map.2 fun e he => ?_
    obtain ⟨kind, -, described⟩ := describes_of_sound h he
    exact ⟨e.1, kind, described⟩
  · refine List.pairwise_map.2 ((List.pairwise_map.1 h.distinct).imp_of_mem ?_)
    intro e e' he he' differ id id' idIs idIs'
    obtain ⟨_, -, described⟩ := describes_of_sound h he
    obtain ⟨_, -, described'⟩ := describes_of_sound h he'
    rw [described.id_eq idIs, described'.id_eq idIs']
    exact differ
  · refine List.forall_mem_map.2 fun w hw => ?_
    obtain ⟨⟨r, found, out⟩, ⟨r', found', into⟩⟩ := h.connected w hw
    refine ⟨⟨w.id, rfl⟩, endsAt_of_sound h rfl rfl found ?_, endsAt_of_sound h rfl rfl found' ?_⟩
    · intro kind known
      rwa [known] at out
    · intro kind known
      rwa [known] at into

/-- The document of a sound circuit is accepted. -/
theorem document_accepted_of_sound (h : c.Sound) : document c.toDocument = .ok () :=
  accepted_of_wellFormed (wellFormed_of_sound h)

end Sound

/-- **Acceptance**: the document of an integral circuit is accepted. -/
theorem document_accepted {c : Circuit} (h : c.Integral) : document c.toDocument = .ok () :=
  document_accepted_of_sound h.sound

end Validation

end TickCircuit
