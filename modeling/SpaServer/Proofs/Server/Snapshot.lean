import Mathlib
import SpaServer.Proofs.Http.Addressing
import SpaServer.Proofs.Server.Bundle
import SpaServer.Server.Session

/-!
# Settings are read once

An application keeps the settings it was made with. So steps that only look leave no trace in a
session, nor does an attempt to make a new application that fails, nor a change of the environment
after which none is made: without them all other steps show the same. What a step shows depends on
the settings that were read when the last application was made and on the files as they are now.
-/

namespace SpaServer

def Step.looks : Step → Bool
  | .find _ _ => true
  | .findFile _ _ => true
  | .matchMounts _ _ => true
  | .prepare _ _ => true
  | .request _ _ => true
  | .put _ _ => false
  | .remove _ => false
  | .setVariable _ _ => false
  | .restart => false

def Step.isRestart : Step → Bool
  | .restart => true
  | _ => false

def selected {α : Type} : List Bool → List α → List α
  | keep :: mask, a :: rest => if keep then a :: selected mask rest else selected mask rest
  | _, _ => []

namespace Session

variable {session other : Session} {step : Step} {steps : List Step}

/-! ### Steps in vain -/

def makes (session : Session) : Step → Bool
  | .restart => (makeApp session.environment session.tree).isOk
  | _ => false

def makesAny (session : Session) : List Step → Bool
  | [] => false
  | step :: rest => session.makes step || (session.after step).makesAny rest

/-- Whether a step before the steps `rest` is a restart that fails, or changes the environment when
no application is made any more. -/
def isVain (session : Session) (step : Step) (rest : List Step) : Bool :=
  match step with
  | .restart => !session.makes .restart
  | .setVariable name value => !(session.after (.setVariable name value)).makesAny rest
  | _ => false

/-- Which steps are left when those in vain are left out, and those that only look if
`leavesLooks`. -/
def essential (leavesLooks : Bool) (session : Session) : List Step → List Bool
  | [] => []
  | step :: rest =>
    (!(session.isVain step rest || leavesLooks && step.looks)) ::
      essential leavesLooks (session.after step) rest

/-- Sessions with the same application and the same files. The environment counts only if an
application is made of it by one of the steps ahead. -/
structure SameAhead (session other : Session) (steps : List Step) : Prop where
  app : session.app = other.app
  tree : session.tree = other.tree
  environment : session.makesAny steps = true → session.environment = other.environment

theorem SameAhead.refl (session : Session) (steps : List Step) : SameAhead session session steps :=
  ⟨rfl, rfl, fun _ => rfl⟩

theorem after_of_looks (hlooks : step.looks = true) : session.after step = session := by
  cases step <;> first | rfl | exact absurd hlooks Bool.false_ne_true

theorem after_restart (hfails : session.makes .restart = false) :
    session.after .restart = session := by
  rw [makes] at hfails
  cases hmake : makeApp session.environment session.tree with
  | ok made => rw [hmake] at hfails; exact absurd hfails.symm Bool.false_ne_true
  | error error => simp only [after, hmake]

/-- What a step shows does not depend on the environment, unless it makes an application. -/
theorem outcome_congr (happ : session.app = other.app) (htree : session.tree = other.tree)
    (hstep : step ≠ .restart) : session.outcome step = other.outcome step := by
  have hlookup : session.lookup = other.lookup := by
    funext fault
    rw [lookup, lookup, happ, htree]
  cases step with
  | restart => exact absurd rfl hstep
  | request request fault => rw [outcome, outcome, hlookup, happ]
  | _ => simp only [outcome, hlookup]

theorem eq_of_sameAhead (hsame : SameAhead session other steps)
    (hmakes : session.makesAny steps = true) : session = other := by
  obtain ⟨environment, tree, app⟩ := session
  obtain ⟨environment', tree', app'⟩ := other
  obtain ⟨happ, htree, henvironment⟩ := hsame
  obtain rfl : app = app' := happ
  obtain rfl : tree = tree' := htree
  obtain rfl : environment = environment' := henvironment hmakes
  rfl

/-- Leaving out a step in vain, or one that only looks, makes no difference for the steps ahead. -/
theorem sameAhead_of_left {leavesLooks : Bool} {rest : List Step}
    (hleft : (session.isVain step rest || leavesLooks && step.looks) = true)
    (hsame : SameAhead session other (step :: rest)) :
    SameAhead (session.after step) other rest := by
  have hahead : ∀ hsession : session.after step = session,
      SameAhead (session.after step) other rest := by
    intro hsession
    rw [hsession]
    refine ⟨hsame.app, hsame.tree, fun hmakes => hsame.environment ?_⟩
    rw [makesAny, hsession, hmakes, Bool.or_true]
  rcases Bool.or_eq_true_iff.1 hleft with hvain | hlooks
  · cases step with
    | restart => exact hahead (after_restart (by simpa [isVain] using hvain))
    | setVariable name value =>
        have hnone : (session.after (.setVariable name value)).makesAny rest = false := by
          simpa [isVain] using hvain
        exact ⟨hsame.app, hsame.tree, fun hmakes => absurd (hnone.symm.trans hmakes)
          Bool.false_ne_true⟩
    | _ => exact absurd hvain Bool.false_ne_true
  · exact hahead (after_of_looks (Bool.and_eq_true_iff.1 hlooks).2)

/-- A step that is kept shows the same and leaves the same behind. -/
theorem sameAhead_of_kept {rest : List Step} (hkept : session.isVain step rest = false)
    (hsame : SameAhead session other (step :: rest)) :
    session.outcome step = other.outcome step ∧
      SameAhead (session.after step) (other.after step) rest := by
  by_cases hstep : step = .restart
  · subst hstep
    have hmakes : session.makes .restart = true := by simpa [isVain] using hkept
    obtain rfl := eq_of_sameAhead hsame (by rw [makesAny, hmakes, Bool.true_or])
    exact ⟨rfl, .refl _ _⟩
  · refine ⟨outcome_congr hsame.app hsame.tree hstep, ?_⟩
    have hahead : (session.after step).makesAny rest = true →
        session.environment = other.environment :=
      fun hmakes => hsame.environment (by rw [makesAny, hmakes, Bool.or_true])
    cases step with
    | restart => exact absurd rfl hstep
    | put path node =>
        exact ⟨hsame.app, congrArg (Node.put · path node) hsame.tree, hahead⟩
    | remove path => exact ⟨hsame.app, congrArg (Node.remove · path) hsame.tree, hahead⟩
    | setVariable name value =>
        exact ⟨hsame.app, hsame.tree, fun hmakes => congrArg (·.set name value) (hahead hmakes)⟩
    | _ => exact ⟨hsame.app, hsame.tree, hahead⟩

/-- Two sessions that are the same ahead show the same, one with the steps in vain and one without
them. -/
theorem run_selected_of_sameAhead (leavesLooks : Bool) (steps : List Step)
    (hsame : SameAhead session other steps) :
    other.run (selected (session.essential leavesLooks steps) steps) =
      selected (session.essential leavesLooks steps) (session.run steps) := by
  induction steps generalizing session other with
  | nil => rfl
  | cons step rest ih =>
      rw [essential, run]
      cases hleft : (session.isVain step rest || leavesLooks && step.looks) with
      | true => exact ih (sameAhead_of_left hleft hsame)
      | false =>
          obtain ⟨houtcome, hafter⟩ :=
            sameAhead_of_kept (Bool.or_eq_false_iff.1 hleft).1 hsame
          simp only [Bool.not_false, selected, if_true]
          rw [run, houtcome, ih hafter]

/-! ### Where a step stands -/

theorem getElem?_run (session : Session) (before rest : List Step) (step : Step) :
    (session.run (before ++ step :: rest))[before.length]? =
      some ((before.foldl after session).outcome step) := by
  induction before generalizing session with
  | nil => rfl
  | cons first before ih =>
      rw [List.cons_append, run, List.length_cons, List.getElem?_cons_succ, List.foldl_cons, ih]

end Session

def Environment.changed (environment : Environment) : Step → Environment
  | .setVariable name value => environment.set name value
  | _ => environment

def Node.changed (tree : Node) : Step → Node
  | .put path node => tree.put path node
  | .remove path => tree.remove path
  | _ => tree

/-- The settings of the application that is made in the given surroundings, if one is. -/
def settingsMade? (environment : Environment) (tree : Node) : Option Settings :=
  match makeApp environment tree with
  | .ok (app, _) => some app.settings
  | .error _ => none

/-- Whether an application is to be made when these steps are done: at the beginning, and when the
last of them is a restart. -/
def asksForApp (steps : List Step) : Bool :=
  steps.getLast?.all Step.isRestart

/-- The settings that were read when an application was last made, with the steps done before. -/
def lastRead? (environment : Environment) (tree : Node) (steps : List Step) : Option Settings :=
  (steps.inits.filter asksForApp).reverse.findSome? fun front =>
    settingsMade? (front.foldl Environment.changed environment) (front.foldl Node.changed tree)

namespace Session

theorem after_environment (session : Session) (step : Step) :
    (session.after step).environment = session.environment.changed step := by
  cases step with
  | restart =>
      rw [after]
      split <;> rfl
  | _ => rfl

theorem after_tree (session : Session) (step : Step) :
    (session.after step).tree = session.tree.changed step := by
  cases step with
  | restart =>
      rw [after]
      split <;> rfl
  | _ => rfl

theorem foldl_after_environment (session : Session) (steps : List Step) :
    (steps.foldl after session).environment =
      steps.foldl Environment.changed session.environment := by
  induction steps generalizing session with
  | nil => rfl
  | cons step steps ih => rw [List.foldl_cons, List.foldl_cons, ih, after_environment]

theorem foldl_after_tree (session : Session) (steps : List Step) :
    (steps.foldl after session).tree = steps.foldl Node.changed session.tree := by
  induction steps generalizing session with
  | nil => rfl
  | cons step steps ih => rw [List.foldl_cons, List.foldl_cons, ih, after_tree]

theorem start_eq_ok {environment : Environment} {tree : Node} {logs : List LogEntry}
    (hstart : start environment tree = .ok (session, logs)) :
    session.environment = environment ∧ session.tree = tree ∧
      makeApp environment tree = .ok (session.app, logs) := by
  rw [start] at hstart
  split at hstart
  · rename_i app logs' hmade
    obtain ⟨rfl, rfl⟩ := Prod.mk.inj (Except.ok.inj hstart)
    exact ⟨rfl, rfl, hmade⟩
  · exact absurd hstart (by simp)

theorem lastRead?_concat (environment : Environment) (tree : Node) (steps : List Step)
    (step : Step) : lastRead? environment tree (steps ++ [step]) =
      (if step.isRestart then settingsMade? (steps.foldl Environment.changed environment)
        (steps.foldl Node.changed tree) else none).or (lastRead? environment tree steps) := by
  have hinits : (steps ++ [step]).inits = steps.inits ++ [steps ++ [step]] := by
    simp [List.inits_append]
  have hasks : asksForApp (steps ++ [step]) = step.isRestart := by simp [asksForApp]
  rw [lastRead?, hinits, List.filter_append, List.reverse_append]
  cases hrestart : step.isRestart with
  | false => simp [hasks, hrestart, lastRead?]
  | true =>
      have hstep : step = .restart := by
        cases step <;> first | rfl | exact absurd hrestart Bool.false_ne_true
      subst hstep
      rw [List.filter_singleton, hasks, hrestart, cond_true, List.reverse_singleton,
        List.singleton_append, List.findSome?_cons, if_pos rfl, List.foldl_append,
        List.foldl_append, lastRead?]
      simp only [List.foldl_cons, List.foldl_nil, Environment.changed, Node.changed]
      cases settingsMade? (steps.foldl Environment.changed environment)
        (steps.foldl Node.changed tree) <;> rfl

/-- An application has the settings that were read when it was made. -/
theorem lastRead?_of_start {environment : Environment} {tree : Node} {logs : List LogEntry}
    (hstart : start environment tree = .ok (session, logs)) (steps : List Step) :
    lastRead? environment tree steps = some (steps.foldl after session).app.settings := by
  obtain ⟨henvironment, htree, hmade⟩ := start_eq_ok hstart
  induction steps using List.reverseRecOn with
  | nil =>
      have hmade? : settingsMade? environment tree = some session.app.settings := by
        rw [settingsMade?, hmade]
      simp [lastRead?, List.filter_singleton, asksForApp, hmade?]
  | append_singleton steps step ih =>
      rw [lastRead?_concat, ih, List.foldl_append, List.foldl_cons, List.foldl_nil]
      cases step with
      | restart =>
          rw [settingsMade?, ← henvironment, ← htree, ← foldl_after_environment,
            ← foldl_after_tree, after]
          cases makeApp (steps.foldl after session).environment
            (steps.foldl after session).tree <;> rfl
      | _ => rfl

/-- **Settings are a snapshot and looking leaves no trace.** Leaving out all steps in vain, with or
without all steps that only look, changes nothing of what the others show, and what a step shows
depends only on the settings read last and on the files. -/
theorem answers_of_essential_steps {environment : Environment} {tree : Node} {session : Session}
    {logs : List LogEntry} (hstart : start environment tree = .ok (session, logs))
    (steps : List Step) :
    (∀ leavesLooks, session.run (selected (session.essential leavesLooks steps) steps) =
        selected (session.essential leavesLooks steps) (session.run steps)) ∧
      ∀ before step rest, steps = before ++ step :: rest → step ≠ .restart →
        ∃ settings, lastRead? environment tree before = some settings ∧
          ∀ anyEnvironment, (session.run steps)[before.length]? =
            some (outcome ⟨anyEnvironment, before.foldl Node.changed tree, ⟨settings⟩⟩ step) := by
  refine ⟨fun leavesLooks => run_selected_of_sameAhead leavesLooks steps (.refl _ _), ?_⟩
  rintro before step rest rfl hstep
  refine ⟨_, lastRead?_of_start hstart before, fun anyEnvironment => ?_⟩
  rw [getElem?_run]
  refine congrArg some (outcome_congr rfl ?_ hstep)
  rw [foldl_after_tree, (start_eq_ok hstart).2.1]

/-! ### An attempt that fails -/

/-- A bundle beside which the alpha build is a link to itself. -/
def brokenAlpha : Node :=
  .dir [(Bundle.alphaDirectory, .link Bundle.alphaDirectory),
    (Bundle.directory, .dir [(Bundle.indexFile, .file [0x68])])]

/-- A change to the alpha build that does not come about, a request, and a change of the files. -/
def vainSteps : List Step :=
  [.setVariable "GAE_ENV".toList "standard".toList, .restart,
    .request (.simple .get ['/']) none, .remove Bundle.directory,
    .request (.simple .get ['/']) none]

theorem stat_brokenAlpha :
    brokenAlpha.stat (.inside [envFileName]) = .error .missing ∧
      brokenAlpha.stat (.inside [Bundle.directory]) =
        .ok (.dir [(Bundle.indexFile, .file [0x68])]) ∧
      brokenAlpha.stat (.inside [Bundle.alphaDirectory]) = .error .tooManyLinks ∧
      brokenAlpha.realPlace [Bundle.alphaDirectory] = .inside [Bundle.alphaDirectory] := by
  refine ⟨?_, ?_, ?_, ?_⟩ <;> cbv

theorem start_brokenAlpha :
    start [] brokenAlpha = .ok (⟨[], brokenAlpha, App.standard⟩, []) := by
  obtain ⟨hfile, hroot, _⟩ := stat_brokenAlpha
  have hsettings : Settings.ofProcess [] brokenAlpha = .ok App.standard.settings := by
    rw [Settings.ofProcess, Node.envFile?, hfile]
    rfl
  rw [start, makeApp, hsettings]
  simp only [App.create, App.assetRoot_standard, hroot]

/-- The alpha build cannot be changed to. -/
theorem makeApp_brokenAlpha :
    (makeApp [("GAE_ENV".toList, "standard".toList)] brokenAlpha).isOk = false := by
  obtain ⟨hfile, _, hroot, hreal⟩ := stat_brokenAlpha
  have hsettings : Settings.ofProcess [("GAE_ENV".toList, "standard".toList)] brokenAlpha =
      .ok { App.standard.settings with deployment := "standard".toList } := by
    rw [Settings.ofProcess, Node.envFile?, hfile]
    decide +kernel
  rw [makeApp, hsettings]
  have hassets : Settings.assetRoot
      { App.standard.settings with deployment := "standard".toList } = Bundle.alphaDirectory := by
    decide
  simp only [App.create, hassets, hroot, hreal]
  rfl

/-- Of the five steps the change and the attempt are in vain, and the requests only look. -/
theorem essential_vainSteps (leavesLooks : Bool) :
    essential leavesLooks ⟨[], brokenAlpha, App.standard⟩ vainSteps =
      [false, false, !leavesLooks, true, !leavesLooks] := by
  have hset : after ⟨[], brokenAlpha, App.standard⟩
      (.setVariable "GAE_ENV".toList "standard".toList) =
        ⟨[("GAE_ENV".toList, "standard".toList)], brokenAlpha, App.standard⟩ := rfl
  have hfails : makes ⟨[("GAE_ENV".toList, "standard".toList)], brokenAlpha, App.standard⟩
      .restart = false := makeApp_brokenAlpha
  simp only [vainSteps, essential, isVain, hset, after_restart hfails, makesAny, hfails]
  cases leavesLooks <;> rfl

theorem answers_vainSteps :
    start [] brokenAlpha = .ok (⟨[], brokenAlpha, App.standard⟩, []) ∧
      ∀ leavesLooks, run ⟨[], brokenAlpha, App.standard⟩
          (selected [false, false, !leavesLooks, true, !leavesLooks] vainSteps) =
        selected [false, false, !leavesLooks, true, !leavesLooks]
          (run ⟨[], brokenAlpha, App.standard⟩ vainSteps) := by
  refine ⟨start_brokenAlpha, fun leavesLooks => ?_⟩
  rw [← essential_vainSteps]
  exact (answers_of_essential_steps start_brokenAlpha vainSteps).1 leavesLooks

end Session

end SpaServer
