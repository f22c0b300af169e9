import SnippetStudio.Text.Blank
import SnippetStudio.Text.Lines

/-!
# Media types

A content type is a media type with parameters behind semicolons.
-/

namespace SnippetStudio

/-- the media type of a content type; the default stands in for a content type that is missing or empty,
and for a media type that is empty -/
def mediaType (contentType : Option String) (default : String) : String :=
  let given := match contentType with
    | some c => if c.isEmpty then default else c
    | none => default
  let name := Text.trim (Text.upTo ';' given.toList)
  if name.isEmpty then default else String.ofList name

/-- a media type is some text, and ends before the parameters -/
theorem mediaType_plain (contentType : Option String) {default : String} (plain : ';' ∉ default.toList)
    (nonempty : default ≠ "") :
    ';' ∉ (mediaType contentType default).toList ∧ mediaType contentType default ≠ "" := by
  unfold mediaType
  extract_lets given name
  split
  · exact ⟨plain, nonempty⟩
  · next some =>
    refine ⟨?_, by simpa using some⟩
    rw [String.toList_ofList]
    exact fun mem => Text.not_mem_upTo _ _ (Text.mem_of_mem_trim mem)

end SnippetStudio
