import Mathlib
import BasiliskServer.Compiler.Call
import BasiliskServer.Proofs.Diagnostics.Fusion

/-!
# Cutting before and after repetitions are dropped

What is published is free of repetitions first and cut off at a number then. The problems of the
compiler are cut off once more before that, as soon as there are as many of them as may be
published, repetitions counted. So a problem that the compiler reports twice may take the place of
one that would have been published.

`collectFrom_eq` says what the cut inside the run of the compiler does: the run diagnoses the first
messages and no others. `dedupe_append` says what repetitions come to: problems that follow others
add those with new keys. Together they give the exact condition under which the inner cut cannot be
seen (`fuse_capped_iff`): either the problems that are left fill the published list, or the cut took
away repetitions only.
-/

namespace BasiliskServer.Compiler

open Diagnostics (dedupe fuse keyOf take_dedupe_append_iff)
open Wire (Diagnostic)

/-! ### The cut inside the run of the compiler -/

/-- The diagnostic for a problem; its place may be out of range. -/
def Message.diagnose (message : Message) : Except Failure Diagnostic :=
  message.toDiagnostic.mapError .position

/-- The diagnostics for everything in the output of a call that concerns the document: what is
found if no limit ends the collection early. -/
def Call.allFindings (call : Call) (output : CommandOutput) : Except Failure (List Diagnostic) := do
  let messages ← parseOutput (output.stderr ++ output.stdout)
  (messages.filter call.concerns).mapM Message.diagnose

/-- A collection with a limit diagnoses the first problems, at least one, and looks at no others:
a problem after them cannot even make it fail. -/
theorem collectFrom_eq (limit : Int) (found : Nat) (messages : List Message) :
    collectFrom limit found messages =
      (messages.take (max 1 (limit - found).toNat)).mapM Message.diagnose := by
  induction messages generalizing found with
  | nil => simp [collectFrom, pure, Except.pure]
  | cons message rest ih =>
    rw [collectFrom, ih]
    by_cases hfull : limit ≤ (found : Int) + 1
    · have hone : max 1 (limit - found).toNat = 1 := by omega
      rw [hone, List.take_succ_cons, List.take_zero, List.mapM_cons, List.mapM_nil]
      simp [hfull, Message.diagnose]
    · have hmore : max 1 (limit - found).toNat = max 1 (limit - (found + 1 : Nat)).toNat + 1 := by
        omega
      rw [hmore, List.take_succ_cons, List.mapM_cons]
      simp [hfull, Message.diagnose]

/-- If all messages are diagnosed, then so are the first ones, in the same way. -/
theorem mapM_diagnose_take {messages : List Message} {all : List Diagnostic}
    (h : messages.mapM Message.diagnose = .ok all) (n : Nat) :
    (messages.take n).mapM Message.diagnose = .ok (all.take n) := by
  induction messages generalizing all n with
  | nil =>
    obtain rfl : [] = all := by simpa [pure, Except.pure] using h
    simp [pure, Except.pure]
  | cons message rest ih =>
    rw [List.mapM_cons] at h
    cases hfirst : message.diagnose with
    | error failure => simp [hfirst, bind, Except.bind] at h
    | ok d =>
      cases hrest : rest.mapM Message.diagnose with
      | error failure => simp [hfirst, hrest, bind, Except.bind] at h
      | ok later =>
        obtain rfl : d :: later = all := by
          simpa [hfirst, hrest, bind, Except.bind, pure, Except.pure] using h
        cases n with
        | zero => simp [pure, Except.pure]
        | succ n =>
          rw [List.take_succ_cons, List.mapM_cons, hfirst, ih hrest]
          rfl

/-- A run of the compiler with a limit finds the first of the problems that it would find without
one. -/
theorem Call.findings_of_allFindings {call : Call} {output : CommandOutput}
    {all : List Diagnostic} (h : call.allFindings output = .ok all) {settings : Settings}
    (hlimit : 1 ≤ settings.maxProblems) :
    ∃ found, call.findings settings output = .ok found ∧
      found.diagnostics = all.take settings.maxProblems.toNat := by
  rw [Call.allFindings] at h
  cases hparse : parseOutput (output.stderr ++ output.stdout) with
  | error failure => simp [hparse, bind, Except.bind] at h
  | ok messages =>
    have hall : (messages.filter call.concerns).mapM Message.diagnose = .ok all := by
      simpa [hparse, bind, Except.bind] using h
    have hcut : max 1 (settings.maxProblems - (0 : Nat)).toNat = settings.maxProblems.toNat := by
      omega
    refine ⟨⟨all.take settings.maxProblems.toNat, output.stderr ++ output.stdout⟩, ?_, rfl⟩
    rw [Call.findings, hparse]
    simp only [bind, Except.bind, collectFrom_eq, hcut, mapM_diagnose_take hall]
    rfl

/-- **When the inner cut cannot be seen.** For every call of the compiler, every output of it whose
problems can all be diagnosed, every list of the companion process, every list of the server itself
and every limit of at least one, the run of the compiler returns the first problems up to the limit,
and what is published with them is what is published with all problems if and only if the problems
that are left fill the published list without repetitions, or every problem that was cut off repeats
one that is left. -/
theorem fuse_capped_iff (call : Call) (settings : Settings) (output : CommandOutput)
    (companion own all : List Diagnostic) (hlimit : 1 ≤ settings.maxProblems)
    (hall : call.allFindings output = .ok all) :
    ∃ found, call.findings settings output = .ok found ∧
      found.diagnostics = all.take settings.maxProblems.toNat ∧
      (fuse companion (own ++ found.diagnostics) settings.maxProblems =
          fuse companion (own ++ all) settings.maxProblems ↔
        settings.maxProblems.toNat ≤
            (dedupe (companion ++ (own ++ found.diagnostics))).length ∨
          ∀ d ∈ all.drop settings.maxProblems.toNat,
            keyOf d ∈ (companion ++ (own ++ found.diagnostics)).map keyOf) := by
  obtain ⟨found, hfound, hfirst⟩ := Call.findings_of_allFindings hall hlimit
  refine ⟨found, hfound, hfirst, ?_⟩
  have hparts : companion ++ (own ++ all) =
      (companion ++ (own ++ found.diagnostics)) ++ all.drop settings.maxProblems.toNat := by
    rw [hfirst]
    simp
  rw [fuse, fuse, hparts]
  exact take_dedupe_append_iff _ _ _

/-- A call of the compiler on a document. -/
def plainCall : Call where
  command := ["qcc", "-Wall", "-fsyntax-only", "basilisk_a.c"]
  document := "a.c"
  scratch := "basilisk_a.c"
  source := "int x"
  library := none

/-- An output that reports one problem twice and then another one. -/
def repeatingOutput : CommandOutput where
  stdout := ""
  stderr := "a.c:1:1: error: e\na.c:1:1: error: e\na.c:2:1: error: f\n"
  code := some 1

/-- The problem of an output on a line, in the first column. -/
def problemOn (line : Nat) (text : String) : Diagnostic where
  range := .onLine line 0 1
  message := text
  severity := some .error
  source := some reporter

theorem allFindings_repeatingOutput :
    plainCall.allFindings repeatingOutput =
      .ok [problemOn 0 "e", problemOn 0 "e", problemOn 1 "f"] := by
  cbv

/-- With a limit of one the inner cut cannot be seen. -/
theorem fuse_capped_iff_limitOne :
    ∃ found, plainCall.findings { maxProblems := 1 } repeatingOutput = .ok found ∧
      fuse [] ([] ++ found.diagnostics) 1 =
        fuse [] ([] ++ [problemOn 0 "e", problemOn 0 "e", problemOn 1 "f"]) 1 := by
  obtain ⟨found, hfound, hfirst, hiff⟩ := fuse_capped_iff plainCall { maxProblems := 1 }
    repeatingOutput [] [] _ (by decide) allFindings_repeatingOutput
  refine ⟨found, hfound, hiff.mpr (.inl ?_)⟩
  rw [hfirst]
  decide

/-- With a limit of two it can: the repetition takes the place of the other problem, so that one
problem is published where there are two. -/
theorem problem_lost_to_repetition :
    ∃ all found, plainCall.allFindings repeatingOutput = .ok all ∧
      plainCall.findings { maxProblems := 2 } repeatingOutput = .ok found ∧
      fuse [] ([] ++ found.diagnostics) 2 ≠ fuse [] ([] ++ all) 2 := by
  refine ⟨_, ⟨[problemOn 0 "e", problemOn 0 "e"], repeatingOutput.stderr⟩,
    allFindings_repeatingOutput, by cbv, ?_⟩
  have hcapped :
      fuse [] ([] ++ [problemOn 0 "e", problemOn 0 "e"]) 2 = [problemOn 0 "e"] := by cbv
  have hall :
      fuse [] ([] ++ [problemOn 0 "e", problemOn 0 "e", problemOn 1 "f"]) 2 =
        [problemOn 0 "e", problemOn 1 "f"] := by cbv
  rw [hcapped, hall]
  simp

end BasiliskServer.Compiler
