import DiagnosticMarkers.Proofs.CommandLine.Escapes
import Mathlib.Logic.IsEmpty.Basic

/-!
# What the exit status tells

An honest exit status is 0 if the list of markers is empty or only help is asked for, 1 if there
are markers and they are printed, and 2 otherwise, and nothing but a fault of usage interrupts the
command. The status is honest unless a fault escapes: an overlong number in the file of settings
or in the output, settings that stand too deep in each other, a null character in the command that
is started, or a table that cannot be drawn. A fault that escapes ends the command with the
status 1, as if there were markers on the screen.
-/

namespace DiagnosticMarkers.CommandLine

variable {around : Surroundings} {arguments : List Text}

/-- The command computes these markers. -/
def Computes (around : Surroundings) (arguments : List Text) (markers : List Marker) : Prop :=
  ∃ preparation : Preparation around arguments, preparation.markers = .ok markers

theorem Computes.unique {markers other : List Marker} (h : Computes around arguments markers)
    (hother : Computes around arguments other) : markers = other := by
  obtain ⟨preparation, hmarkers⟩ := h
  obtain ⟨preparation', hmarkers'⟩ := hother
  rw [preparation'.eq preparation] at hmarkers'
  exact Except.ok.inj (hmarkers.symm.trans hmarkers')

end DiagnosticMarkers.CommandLine
