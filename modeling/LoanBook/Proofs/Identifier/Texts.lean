import LoanBook.Failure
import LoanBook.Proofs.Text.Canonical

/-!
# The texts of identifiers

An identifier has one text, and a text names an identifier exactly when it is that text.  Any other
text is refused with the reason that it is no canonical base64, or encodes another number of bytes
than sixteen.
-/

namespace LoanBook

open Text

/-- What a fault says about the text in which it was found. -/
def IdentifierFault.Describes (text : String) : IdentifierFault → Prop
  | encoding _ => ¬Base64.IsCanonical (Base64.utf8 text)
  | length found => found ≠ 16 ∧ ∃ bytes, bytes.length = found ∧ text = Base64.encode bytes

namespace Identifier

variable {kind : IdentifierKind}

/-- What the request for the identifier that a text names is answered with. -/
def read (kind : IdentifierKind) (text : String) : Except LoanError (Identifier kind) :=
  (ofText text).mapError (.invalidIdentifier kind)

theorem ofBytes?_eq_some_iff {bytes : List UInt8} {identifier : Identifier kind} :
    ofBytes? bytes = some identifier ↔ identifier.bytes = bytes := by
  unfold ofBytes?
  by_cases sixteen : bytes.length = 16
  · rw [dif_pos sixteen, Option.some_inj]
    constructor
    · rintro rfl
      rfl
    · rintro rfl
      rfl
  · rw [dif_neg sixteen]
    constructor
    · intro none
      cases none
    · rintro rfl
      exact (sixteen identifier.length_eq).elim

theorem ofText_eq_ok_iff {text : String} {identifier : Identifier kind} :
    ofText text = .ok identifier ↔ text = identifier.toText := by
  rw [toText, ← Base64.decode_eq_ok_iff, ofText]
  cases Base64.decode text with
  | error fault => simp
  | ok bytes =>
      simp only [Except.ok.injEq]
      rw [eq_comm (a := bytes), ← ofBytes?_eq_some_iff]
      cases (ofBytes? bytes : Option (Identifier kind)) with
      | none => simp
      | some found => simp

/-- A text is refused for a fault that it has. -/
theorem describes_of_ofText {text : String} {fault : IdentifierFault}
    (refused : (ofText text : Except IdentifierFault (Identifier kind)) = .error fault) :
    fault.Describes text := by
  unfold ofText at refused
  cases decodes : Base64.decode text with
  | error encoding =>
      rw [decodes] at refused
      cases refused
      show ¬Base64.IsCanonical (Base64.utf8 text)
      rw [Base64.isCanonical_utf8_iff]
      rintro ⟨bytes, rfl⟩
      rw [Base64.decode_encode] at decodes
      cases decodes
  | ok bytes =>
      rw [decodes] at refused
      dsimp only at refused
      cases sized : (ofBytes? bytes : Option (Identifier kind)) with
      | some identifier =>
          rw [sized] at refused
          cases refused
      | none =>
          rw [sized] at refused
          cases refused
          refine ⟨fun sixteen => ?_, bytes, rfl, Base64.decode_eq_ok_iff.mp decodes⟩
          rw [ofBytes?, dif_pos sixteen] at sized
          cases sized

/-- Reading a text gives an identifier exactly when the text is the one that the identifier is
written as; so every identifier is read back, and has no other text.  Every text of no identifier is
refused as invalid: it is not the canonical base64 of anything, or not of sixteen bytes. -/
theorem read_answers (kind : IdentifierKind) (text : String) :
    (∀ identifier : Identifier kind, read kind text = .ok identifier ↔ text = identifier.toText) ∧
      ((∀ identifier : Identifier kind, text ≠ identifier.toText) →
        ∃ fault : IdentifierFault, read kind text = .error (.invalidIdentifier kind fault) ∧
          fault.Describes text) := by
  constructor
  · intro identifier
    rw [← ofText_eq_ok_iff, read]
    cases (ofText text : Except IdentifierFault (Identifier kind)) with
    | error fault => simp [Except.mapError]
    | ok found => simp [Except.mapError]
  · intro foreign
    cases answer : (ofText text : Except IdentifierFault (Identifier kind)) with
    | ok identifier => exact (foreign identifier (ofText_eq_ok_iff.mp answer)).elim
    | error fault =>
        refine ⟨fault, ?_, describes_of_ofText answer⟩
        rw [read, answer]
        rfl

end Identifier

end LoanBook
