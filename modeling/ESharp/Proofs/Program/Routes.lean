import ESharp.Format
import ESharp.Viewer.Model
import ESharp.Proofs.Program.Collecting

/-!
# Routes to the program

A script becomes a program along two ways: its lines are collected as they come, or they are listed
first and the listing is collected. The formats take the second way and the viewer the first, and both
end with the same text.
-/

namespace ESharp

/-- The program of a listing is the program of the lines that were listed. -/
theorem Listing.program_ofLines (layout : Layout) (ls : List Text) :
    Listing.program layout (Listing.ofLines ls) = Program.ofLines layout ls := by
  rw [Listing.program, Listing.map_directive_ofLines, Program.ofLines_eq_ofDirectives]

lemma Format.csharp_write_ofSource (layout : Layout) (source : Text) :
    Format.csharp.write layout (Listing.ofSource source) =
      .ok (Program.translate layout (Text.lines source)) := by
  have h : Listing.program layout (Listing.ofSource source) =
      Program.ofLines layout (Text.lines source) := Listing.program_ofLines layout (Text.lines source)
  change Except.ok ((Listing.program layout (Listing.ofSource source)).render layout) = _
  rw [h, Program.translate]

lemma Registry.get?_standard_csharp : Registry.standard.get? "csharp".toList = some Format.csharp := by
  rfl

lemma Registry.process_standard_csharp (layout : Layout) (source : Text) :
    Registry.standard.process layout "csharp".toList source =
      Format.csharp.write layout (Listing.ofSource source) := by
  rw [Registry.process, Registry.write, Registry.get?_standard_csharp]

/-- Every way from a script to its program gives the same one: collected from the lines or from
their directives, through the registry or through the format itself, and in the viewer. -/
theorem routes_agree (layout : Layout) (ls : List Text) (source : Text) :
    Program.ofDirectives layout ((Listing.ofLines ls).map Entry.directive) =
        Program.ofLines layout ls ∧
      Registry.standard.process layout "csharp".toList source =
        .ok (Program.translate layout (Text.lines source)) ∧
      Format.csharp.write layout (Listing.ofSource source) =
        .ok (Program.translate layout (Text.lines source)) ∧
      (Viewer.Model.ofSource layout source).generatedLines =
        Text.lines (Program.translate layout (Text.lines source)) := by
  refine ⟨Listing.program_ofLines layout ls, ?_, Format.csharp_write_ofSource layout source, rfl⟩
  rw [Registry.process_standard_csharp, Format.csharp_write_ofSource]

end ESharp
