/-
What a respondent sees of a document that was written back.

A document is written back by a store, as text, and by an editor that it was opened in, as
an object.  Either way it comes back settled, so that the same items are mounted, but an
item that a false or an empty condition hid before is shown from then on.  Every other item
is visible after the writing if and only if it was before.

The two ways fail differently.  A text is always written and read again.  An editor does not
open a document that has an item whose type is a list or an object, although no respondent
would notice such an item.
-/
import Questionnaire.Proofs.Editor.Opening
import Questionnaire.Proofs.Json.Parsed
import Questionnaire.Proofs.Presentation.Settled

namespace Questionnaire

namespace Document

/-- Whatever a document was read from, it was read from an object in the end, and one that can
be written if the source can. -/
theorem ofObject_of_load_source {source : Json} {d : Document} (h : load source = .ok d) :
    ∃ ms, ofObject (.obj ms) = .ok d ∧ (source.Writable → (Json.obj ms).Writable) := by
  cases source with
  | obj ms => exact ⟨ms, ofObject_of_load h, id⟩
  | str text =>
      have hmapped : (ofText text).mapError Failure.ofFault = .ok d := h
      cases htext : ofText text with
      | error fault =>
          rw [htext] at hmapped
          cases hmapped
      | ok e =>
          rw [htext] at hmapped
          cases hmapped
          unfold ofText at htext
          split at htext
          case h_1 => cases htext
          case h_2 v hparse =>
            cases v with
            | obj ms => exact ⟨ms, htext, fun _ => Json.writable_parse hparse⟩
            | null | bool | int | float | str | arr => cases htext
  | null | bool | int | float | arr => cases h

/-- A document that was read has genuine items. -/
theorem genuine_of_load {source : Json} {d : Document} (h : load source = .ok d) :
    Item.AllGenuine d.items := by
  obtain ⟨ms, hread, -⟩ := ofObject_of_load_source h
  exact genuine_ofObject hread

/-- A document that was read from anything that can be written is read back from its text,
settled. -/
theorem load_write_settled {source : Json} {d : Document} (h : load source = .ok d)
    (hsource : source.Writable) (blanks : Option Nat) :
    load (.str (d.write (indentation blanks))) = .ok d.settled := by
  obtain ⟨ms, hd, hms⟩ := ofObject_of_load_source h
  rw [load_text (blank_indentation blanks) (writable_toJson (hms hsource) hd)]
  show (ofObject d.toJson).mapError Failure.ofFault = _
  rw [ofObject_toJson (genuine_ofObject hd)]
  rfl

end Document

namespace Editor

variable {source : Json} {d : Document}

/-- What was opened and not edited is the document, settled. -/
theorem toDocument_of_usable (h : Document.load source = .ok d)
    (hobject : ∀ n ∈ d.outline, n.item.toJson.isObject = true)
    (husable : ∀ n ∈ d.outline, n.item.TypeUsable) :
    ∃ e, ofDocument d = .ok e ∧ e.toDocument = .ok d.settled := by
  have hgenuine := Document.genuine_of_load h
  obtain ⟨e, hopened, hjson⟩ := ofDocument_of_usable hobject hgenuine husable
  refine ⟨e, hopened, ?_⟩
  rw [toDocument, hjson]
  show (Document.ofObject d.toJson).mapError Failure.ofFault = _
  rw [Document.ofObject_toJson hgenuine]
  rfl

end Editor

namespace Presentation

open Document (load indentation)

/-- Where no condition is mute, a document is seen as the other one for all answers. -/
theorem SeenAs.isVisible_eq {d e : Document} (h : SeenAs d e)
    (hmute : ∀ n ∈ d.outline, ¬n.item.cond.Mute) (answers : Answers) (handle : Nat) :
    (render e answers).isVisible handle = (render d answers).isVisible handle := by
  have hway : ∀ n ∈ d.way handle, ¬n.item.cond.Mute := by
    intro n hn
    refine hmute n ?_
    unfold Document.way at hn
    split at hn
    case h_1 =>
      obtain ⟨g, -, hg⟩ := List.mem_filterMap.mp hn
      exact List.mem_of_getElem? hg
    case h_2 => cases hn
  have hvisible := h.visible answers handle
  rw [Bool.eq_iff_iff, hvisible]
  exact ⟨fun hseen => ⟨hseen, hway⟩, fun hseen => hseen.1⟩

/-- **Writing a document back shows what a mute condition hid, and changes nothing else.**
Whatever the document was read from, the text that is written for it is read without a fault,
and what is read is seen as the document, save for the items that a mute condition hid.  If
all its items are objects, the same holds of what an editor makes of it, unless the type of
an item is a list or an object: then the editor does not open it. -/
theorem seenAs_writtenBack {source : Json} {d : Document} (h : load source = .ok d) :
    (source.Writable → ∀ blanks, ∃ e,
      load (.str (d.write (indentation blanks))) = .ok e ∧ SeenAs d e) ∧
    ((∀ n ∈ d.outline, n.item.toJson.isObject = true) →
      ((∀ n ∈ d.outline, n.item.TypeUsable) → ∃ session e, Editor.ofDocument d = .ok session ∧
        session.toDocument = .ok e ∧ SeenAs d e) ∧
      ((¬∀ n ∈ d.outline, n.item.TypeUsable) →
        Editor.ofDocument d = .error (.misfit .kind))) := by
  have hseen := seenAs_settled d
  refine ⟨fun hsource blanks => ?_, fun hobject => ⟨fun husable => ?_, fun husable => ?_⟩⟩
  · exact ⟨d.settled, Document.load_write_settled h hsource blanks, hseen⟩
  · obtain ⟨session, hopened, hback⟩ := Editor.toDocument_of_usable h hobject husable
    exact ⟨session, d.settled, hopened, hback, hseen⟩
  · obtain ⟨ms, hd, -⟩ := Document.ofObject_of_load_source h
    exact Editor.ofDocument_of_not_usable hobject (Document.genuine_ofObject hd) husable

/-- A question that is never shown. -/
def neverShown : Entries Json :=
  [("items", .arr [.obj [("type", .str "line"), ("id", .str "q"), ("cond", .bool false)]])]

/-- The document that it stands in. -/
def withNeverShown : Document := ⟨1, [.line ⟨"q", "", false, .bool false⟩ none]⟩

theorem writable_neverShown : (Json.obj neverShown).Writable := by
  refine Json.writable_obj.mpr ⟨by simp [neverShown], ?_⟩
  simp [neverShown, Json.writable_obj, Json.writable_arr, Json.writable_str, Json.writable_bool]

theorem load_neverShown : load (.obj neverShown) = .ok withNeverShown := rfl

theorem isObject_withNeverShown :
    ∀ n ∈ withNeverShown.outline, n.item.toJson.isObject = true := by
  intro n hn
  cases List.mem_singleton.mp hn
  rfl

theorem typeUsable_withNeverShown : ∀ n ∈ withNeverShown.outline, n.item.TypeUsable := by
  intro n hn
  cases List.mem_singleton.mp hn
  exact ⟨[], rfl⟩

/-- The question that is never shown comes back in a document that is seen as this one, save
for that question, from a store and from an editor alike. -/
theorem seenAs_writtenBack_neverShown :
    load (.obj neverShown) = .ok withNeverShown ∧ (Json.obj neverShown).Writable ∧
      (∃ e, load (.str (withNeverShown.write (indentation (some 2)))) = .ok e ∧
        SeenAs withNeverShown e) ∧
      ∃ session e, Editor.ofDocument withNeverShown = .ok session ∧
        session.toDocument = .ok e ∧ SeenAs withNeverShown e := by
  have hback := seenAs_writtenBack load_neverShown
  exact ⟨load_neverShown, writable_neverShown, hback.1 writable_neverShown (some 2),
    (hback.2 isObject_withNeverShown).1 typeUsable_withNeverShown⟩

/-- A question that is hidden for all answers is shown for all of them after its document was
written as text, and after it was opened in an editor and taken out again. -/
theorem shown_after_writing :
    load (.obj neverShown) = .ok withNeverShown ∧
      (∀ answers, (render withNeverShown answers).isVisible 0 = false) ∧
      (∃ e, load (.str (withNeverShown.write (indentation none))) = .ok e ∧
        ∀ answers, (render e answers).isVisible 0 = true) ∧
      ∃ session e, Editor.ofDocument withNeverShown = .ok session ∧
        session.toDocument = .ok e ∧ ∀ answers, (render e answers).isVisible 0 = true := by
  have hhidden : ∀ answers, (render withNeverShown answers).isVisible 0 = false := by
    intro answers
    rw [← Bool.not_eq_true, ((seenAs_settled withNeverShown).visible answers 0)]
    rintro ⟨-, hmute⟩
    exact hmute _ (List.mem_singleton.mpr rfl) (Or.inl rfl)
  have hshown : ∀ answers, (render withNeverShown.settled answers).isVisible 0 = true := by
    intro answers
    have hmet : Condition.evaluate .null answers = true := by
      simp [Condition.evaluate, Condition.ofJson, Condition.holds]
    refine isVisible_iff.mpr ⟨_, rfl, List.forall_mem_singleton.mpr ?_⟩
    show (Condition.evaluate .null answers) = true
    exact hmet
  obtain ⟨session, hopened, hback⟩ := Editor.toDocument_of_usable load_neverShown
    isObject_withNeverShown typeUsable_withNeverShown
  refine ⟨load_neverShown, hhidden, ⟨_, ?_, hshown⟩, session, _, hopened, hback, hshown⟩
  exact Document.load_write_settled load_neverShown writable_neverShown none

end Presentation

end Questionnaire
