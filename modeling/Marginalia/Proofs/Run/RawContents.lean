import Marginalia.Proofs.Run.Outcome
import Marginalia.Proofs.Text.RawLines

/-!
# Documents with invalid bytes

The file of a document need not be text.  What is read of it then has replacement characters, but its lines are
those of the bytes: a character that is cut off at the end of a line takes nothing of the ending with it, and
no bytes but a line feed end a line.
-/

namespace Marginalia

/--
Invalid bytes cannot disturb the lines of a document.  If its file can be read and no prologue is stripped,
the sections are those of the lines of its bytes, each read on its own and taken in one after the other.
-/
theorem readSections_eq_rawLines (document : Document) (content : Bytes) (world : World)
    (holds : world.files.readFile document.source = .ok content) :
    let markers := CommentSyntax.ofExtension document.extension
    let lines := (Bytes.lines content).map Utf8.decodeLossy
    outcome (readSections .none document) world =
      (.ok ((lines.foldl (Segmentation.step markers) .start).drafts.map Draft.toSection), world) := by
  intro markers lines
  have read : document.sections .none content = markers.sections lines := by
    rw [Document.sections, Segmenter.segment]
    exact congrArg markers.sections (Utf8.lines_decodeLossy content)
  unfold readSections
  rw [outcome_bind, outcome_readFile, holds]
  exact congrArg (fun parts => (Except.ok parts, world)) read

/-- Two characters that are cut off, one by a line feed and one by both characters of an ending, and then a line
feed in an overlong form with a carriage return after it. -/
def disturbed : Bytes :=
  Utf8.encode "// ".toList ++ [0xC3, 0x0A, 0xE2, 0x82, 0x0D, 0x0A, 0xC0, 0x8A, 0x0D]

def worldWithDisturbed : World where
  files := { entries := [([Utf8.encode "a.c".toList], .file disturbed)], workingDirectory := some [] }

theorem readSections_eq_rawLines_disturbed :
    worldWithDisturbed.files.readFile (.ofText "a.c".toList) = .ok disturbed ∧
      Bytes.lines disturbed = [Utf8.encode "// ".toList ++ [0xC3], [0xE2, 0x82], [0xC0, 0x8A, 0x0D]] ∧
      outcome (readSections .none (.make (.ofText "a.c".toList) (.ofText "a.c".toList))) worldWithDisturbed =
        (.ok [{ comment := [Utf8.replacement],
                code := [Utf8.replacement, '\n', Utf8.replacement, Utf8.replacement, '\r'] }],
          worldWithDisturbed) := by
  have holds : worldWithDisturbed.files.readFile (.ofText "a.c".toList) = .ok disturbed := by decide +kernel
  have cut : Bytes.lines disturbed =
      [Utf8.encode "// ".toList ++ [0xC3], [0xE2, 0x82], [0xC0, 0x8A, 0x0D]] := by decide
  refine ⟨holds, cut, ?_⟩
  rw [readSections_eq_rawLines (.make (.ofText "a.c".toList) (.ofText "a.c".toList)) disturbed worldWithDisturbed
    holds, cut]
  rfl

end Marginalia
