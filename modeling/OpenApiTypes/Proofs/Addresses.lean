import OpenApiTypes.DocumentSource
import OpenApiTypes.Proofs.Traversal

/-!
# Addresses of releases

A template of plain text around one field that asks for the version as it is gives that text around
the version, whatever the version is. The template for the addresses of releases is of this kind, so
every release has an address, and asking for one never fails before the network is reached.
-/
namespace OpenApiTypes

namespace Template

variable {text rest version before after : List Char}

/-- Text without braces is literal: it is taken over character by character, and what stands behind
it is read as if it stood alone. The induction is on the plain text. -/
theorem pieces_append (plain : ∀ c ∈ text, c ≠ '\x7b' ∧ c ≠ '\x7d') :
    pieces .text (text ++ rest) = text.map .literal ++ pieces .text rest := by
  induction text with
  | nil => rfl
  | cons first others ih =>
    obtain ⟨notOpen, notClose⟩ := plain first List.mem_cons_self
    have literal (behind : List Char) :
        pieces .text (first :: behind) = .literal first :: pieces .text behind := by
      rw [pieces] <;> simp [notOpen, notClose]
    rw [List.cons_append, literal, ih fun c there => plain c (List.mem_cons_of_mem first there)]
    rfl

/-- The empty layout leaves a text as it is: nothing is cut off, and nothing is filled up. -/
theorem textLaidOut_nil {content : List Char} : textLaidOut content [] = .ok content := by
  have read : readLayout [] =
      .ok ⟨none, none, none, false, false, false, 0, none, none, none⟩ := rfl
  rw [textLaidOut, read]
  change Except.ok (Layout.apply _ content) = _
  simp [Layout.apply]

/-- A template of plain text with one field, which asks for the version as it is, gives the text
around the version. The version itself is not read as a template, so braces in it stand for
themselves, and one level of depth is enough. -/
theorem fillIn_version {depth : Nat} (plainBefore : ∀ c ∈ before, c ≠ '\x7b' ∧ c ≠ '\x7d')
    (plainAfter : ∀ c ∈ after, c ≠ '\x7b' ∧ c ≠ '\x7d') :
    fillIn version (depth + 1) (before ++ ("\x7bversion\x7d".toList ++ after)) =
      .ok (before ++ (version ++ after)) := by
  have field : pieces .text ("\x7bversion\x7d".toList ++ after) =
      .field "version".toList none [] :: pieces .text after := rfl
  have behind : pieces .text after = after.map .literal := by
    rw [← List.append_nil after, pieces_append plainAfter, List.append_nil]
    exact List.append_nil _
  rw [fillIn, pieces_append plainBefore, field, behind]
  refine Traversal.bind_ok_iff.2 ⟨before.map ([·]) ++ version :: after.map ([·]),
    Traversal.mapM_ok_iff.2 ?_, ?_⟩
  · refine List.rel_append ?_ (.cons ?_ ?_)
    · simp only [List.forall₂_map_left_iff, List.forall₂_map_right_iff, List.forall₂_same]
      exact fun _ _ => rfl
    · exact textLaidOut_nil
    · simp only [List.forall₂_map_left_iff, List.forall₂_map_right_iff, List.forall₂_same]
      exact fun _ _ => rfl
  · simp only [List.flatten_append, List.flatten_cons, ← List.flatMap_def, List.flatMap_singleton']
    rfl

end Template

/-- The address of a release is the template with the name of the release in its place, whatever
that name is. So there is an address for every name, and it holds the whole name. -/
theorem addressOf_releaseAddress {version : String} : addressOf releaseAddress version =
    .ok ("https://raw.githubusercontent.com/kubernetes/kubernetes/" ++ version ++
      "/api/openapi-spec/swagger.json") := by
  let before := "https://raw.githubusercontent.com/kubernetes/kubernetes/"
  let after := "/api/openapi-spec/swagger.json"
  have whole : releaseAddress.toList =
      before.toList ++ ("\x7bversion\x7d".toList ++ after.toList) := by
    rw [← String.toList_append, ← String.toList_append]
    rfl
  have filled : Template.fillIn version.toList 2 releaseAddress.toList =
      .ok (before.toList ++ (version.toList ++ after.toList)) := by
    rw [whole]
    exact Template.fillIn_version (by simp [before]) (by simp [after])
  have text : String.ofList (before.toList ++ (version.toList ++ after.toList)) =
      before ++ version ++ after := by
    rw [← String.toList_append, ← String.toList_append, String.ofList_toList, String.append_assoc]
  rw [addressOf, Template.expand, filled]
  exact congrArg Except.ok text

end OpenApiTypes
