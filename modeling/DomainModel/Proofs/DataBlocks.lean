import DomainModel.Declared.Config
import DomainModel.Declared.Page
import DomainModel.Proofs.CommentMarkers
import Mathlib.Data.List.Induction

/-!
# Data blocks and their payloads

A data block has a marker of fixed length in front of its payload and stars and a slash behind it.
The front marker is there or not, and nothing depends on what follows it. The closing marker takes
its whole run of stars along, so what is left in front of it does not end in a star, and this alone
decides where the marker begins: a text that ends like a data block is a body and a closing marker
in exactly one way (`exists_closedBody`, `ClosedBody.dropCloser_eq`). Markers, slashes and line ends
inside the payload are never looked at.

## What this module delivers

- `behindOpener`, `ClosedBody`: a text without its opening marker, and a body with its closing one.
- `dropDataOpener_eq_behindOpener`, `dropCloser_eq_self`, `closedBody_dropCloser`: one marker at one
  end, for every text.
- `writtenDataBlock`: a data block with a given number of stars behind its payload.
- `CarriesPayload`: what datasets, JSON configurations and operations make of a data block.
- `dataBlock_drops_markers`: the payload of every text, and of every data block as it is written.
-/

set_option autoImplicit false

namespace DomainModel

namespace Text

/-! ## The opening marker -/

/-- The text behind an opening data marker; a text that does not start with one is left whole. -/
def behindOpener (text : List Char) : List Char :=
  if ['/', '*', '#'] <+: text then text.drop 3 else text

theorem dropDataOpener_eq_behindOpener (text : List Char) :
    dropDataOpener text = behindOpener text := by
  rw [dropDataOpener.eq_def, behindOpener]
  split
  · next rest =>
      rw [if_pos ⟨rest, rfl⟩]
      rfl
  · next hother =>
      rw [if_neg]
      rintro ⟨rest, rfl⟩
      exact hother rest rfl

/-! ## The closing marker -/

/-- A text is a body that does not end in a star, and behind it a closing marker: one star or more,
and a slash. -/
structure ClosedBody (text body : List Char) : Prop where
  /-- The stars all belong to the marker. -/
  last_ne_star : body.getLast? ≠ some '*'
  /-- The marker follows the body and ends the text. -/
  eq_append : ∃ stars, 0 < stars ∧ text = body ++ (List.replicate stars '*' ++ ['/'])

/-- A text that does not end like a data block has no closing marker to lose. -/
theorem dropCloser_eq_self {text : List Char} (h : ¬ ['*', '/'] <:+ text) :
    dropCloser text = text := by
  rw [dropCloser]
  split
  · next rest hreverse =>
      have htext : text = rest.reverse ++ ['*', '/'] := by
        rw [← List.reverse_reverse text, hreverse]
        simp
      exact absurd ⟨rest.reverse, htext.symm⟩ h
  · rfl

/-- Only the body in front of the closing marker is left. -/
theorem ClosedBody.dropCloser_eq {text body : List Char} (h : ClosedBody text body) :
    dropCloser text = body := by
  obtain ⟨stars, hstars, rfl⟩ := h.eq_append
  exact dropCloser_stars hstars h.last_ne_star

/-- Every text is a part that does not end in a star, followed by stars. -/
theorem exists_eq_append_stars (text : List Char) :
    ∃ (body : List Char) (stars : Nat), body.getLast? ≠ some '*' ∧
      text = body ++ List.replicate stars '*' := by
  -- from the right end: a star joins the run, any other character ends the search
  induction text using List.reverseRecOn with
  | nil => exact ⟨[], 0, by simp, rfl⟩
  | append_singleton text last ih =>
      by_cases hlast : last = '*'
      · obtain ⟨body, stars, hbody, rfl⟩ := ih
        refine ⟨body, stars + 1, hbody, ?_⟩
        rw [hlast, List.replicate_succ', List.append_assoc]
      · refine ⟨text ++ [last], 0, ?_, by simp⟩
        rw [List.getLast?_concat]
        simpa using hlast

/-- A text that ends like a data block is a body with a closing marker. -/
theorem exists_closedBody {text : List Char} (h : ['*', '/'] <:+ text) :
    ∃ body, ClosedBody text body := by
  obtain ⟨front, rfl⟩ := h
  obtain ⟨body, stars, hbody, rfl⟩ := exists_eq_append_stars front
  refine ⟨body, hbody, stars + 1, Nat.succ_pos stars, ?_⟩
  rw [List.replicate_succ', List.append_assoc, List.append_assoc]
  rfl

/-- The body of such a text is what is left of it, and no other text is. -/
theorem closedBody_dropCloser {text : List Char} (h : ['*', '/'] <:+ text) :
    ClosedBody text (dropCloser text) := by
  obtain ⟨body, hbody⟩ := exists_closedBody h
  rwa [hbody.dropCloser_eq]

/-! ## Whole data blocks -/

/-- The text of a data block with this payload and so many stars in its closing marker. -/
def writtenDataBlock (payload : String) (stars : Nat) : String :=
  "/*#" ++ payload ++ String.ofList (List.replicate stars '*') ++ "/"

/-- The payload between the markers is what is left when they are gone. -/
theorem dataBlock_writtenDataBlock {payload : String} (h : payload.toList.getLast? ≠ some '*')
    {stars : Nat} (hstars : 0 < stars) : dataBlock (writtenDataBlock payload stars) = payload := by
  have htext : (writtenDataBlock payload stars).toList =
      '/' :: '*' :: '#' :: (payload.toList ++ (List.replicate stars '*' ++ ['/'])) := by
    simp [writtenDataBlock]
  rw [dataBlock, stripDataBlock, htext, dropDataOpener, dropCloser_stars hstars h,
    String.ofList_toList]

end Text

/-! ## Payloads -/

namespace Declared

open Text

/-- A data block with this text gives this payload to whatever has it. -/
structure CarriesPayload (text payload : String) : Prop where
  dataBlock : dataBlock text = payload
  dataset : ∀ dataset : Dataset, dataset.body.image = text →
    dataset.toModel = ⟨dataset.name.image, payload⟩
  jsonConfig : ∀ config : JsonConfig, config.body.image = text →
    config.toModel = ⟨config.name.image, config.type.image, config.subtype.image, payload⟩
  operation : ∀ operation : Operation, operation.dataBlock.map Token.image = some text →
    operation.toModel = ⟨operation.key.image, some (.block payload)⟩

/-- The payload is the data block without its markers wherever it stands; an operation leaves out
only a data block without any text. -/
theorem carriesPayload_dataBlock {text : String} (h : text ≠ "") :
    CarriesPayload text (dataBlock text) where
  dataBlock := rfl
  dataset := by
    rintro dataset rfl
    rfl
  jsonConfig := by
    rintro config rfl
    rfl
  operation := by
    intro operation hoperation
    obtain ⟨token, htoken, rfl⟩ := Option.map_eq_some_iff.1 hoperation
    -- the block is preferred to an identifier and to a text
    have hvalue : operation.value? = some (.block (Text.dataBlock token.image)) := by
      simp [Operation.value?, htoken, h]
    rw [Operation.toModel, hvalue]

/-- Of every text the opening marker is taken off if it starts with one, and then the closing marker
if what is left ends in one: up to that marker stands the one body that does not end in a star. So a
data block with a payload that does not end in a star gives just this payload to a dataset, a JSON
configuration and an operation, whatever the payload holds and however many stars close it. -/
theorem dataBlock_drops_markers :
    (∀ text : String,
      (¬ ['*', '/'] <:+ behindOpener text.toList →
        (dataBlock text).toList = behindOpener text.toList) ∧
      (['*', '/'] <:+ behindOpener text.toList →
        ∀ body : String, ClosedBody (behindOpener text.toList) body.toList ↔
          body = dataBlock text)) ∧
    ∀ (payload : String) (stars : Nat), payload.toList.getLast? ≠ some '*' → 0 < stars →
      CarriesPayload (writtenDataBlock payload stars) payload := by
  constructor
  · intro text
    have htext : (dataBlock text).toList = dropCloser (behindOpener text.toList) := by
      rw [dataBlock, String.toList_ofList, stripDataBlock, dropDataOpener_eq_behindOpener]
    constructor
    · intro hopen
      rw [htext, dropCloser_eq_self hopen]
    · intro hclosed body
      constructor
      · intro hbody
        rw [← String.toList_inj, htext, hbody.dropCloser_eq]
      · rintro rfl
        rw [htext]
        exact closedBody_dropCloser hclosed
  · intro payload stars hpayload hstars
    have hwritten : writtenDataBlock payload stars ≠ "" := by
      simp [writtenDataBlock]
    have hcarries := carriesPayload_dataBlock hwritten
    rwa [dataBlock_writtenDataBlock hpayload hstars] at hcarries

/-- Markers, slashes and line ends inside a payload stay, a block may be empty, and of a text
without the number sign only the closing marker goes. -/
theorem dataBlock_drops_markers_nested :
    writtenDataBlock "[\n/*# a */ 1 /*/" 3 = "/*#[\n/*# a */ 1 /*/***/" ∧
    CarriesPayload "/*#[\n/*# a */ 1 /*/***/" "[\n/*# a */ 1 /*/" ∧
    CarriesPayload "/*#*/" "" ∧ dataBlock "/** rows ***/" = "/** rows " ∧
    (dataBlock "/*#/").toList = ['/'] := by
  obtain ⟨htext, hwritten⟩ := dataBlock_drops_markers
  refine ⟨rfl, ?_, ?_, ?_, ?_⟩
  · exact hwritten "[\n/*# a */ 1 /*/" 3 (by decide) (by decide)
  · exact hwritten "" 1 (by decide) (by decide)
  · have hbody : ClosedBody (behindOpener "/** rows ***/".toList) "/** rows ".toList :=
      ⟨by decide, 3, by decide, by decide⟩
    exact (((htext "/** rows ***/").2 (by decide) "/** rows ").1 hbody).symm
  · exact (htext "/*#/").1 (by decide)

end Declared

end DomainModel
