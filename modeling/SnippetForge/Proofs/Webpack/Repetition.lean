import SnippetForge.Proofs.Compilation.Repetition
import SnippetForge.Proofs.Webpack.Conduct

/-!
# A program that behaves the same in two calls

A call is made in two worlds with the same files, and the program behaves the same in both, whatever
the areas are called. Then the outcomes are the same, but for the name of the area and for the time
that has been measured. If the call comes to no end in one world, it comes to none in the other.
-/

namespace SnippetForge.Webpack

open Compilation (Creates Stage ResultsAlike SameButName isCancelled limitOf exists_creates_alike
  exists_creation_alike exists_entry_alike)
open StagingArea

variable {program projectRoot : Path} {settings : Settings} {source tag : String}
  {options options' : CompileOptions} {w v w' : World}

/-- The program behaves the same in a call in two worlds: in the areas that are made there, with
their entries written, it has the same behaviours. -/
def BehavesAlike (program projectRoot : Path) (settings : Settings) (source tag : String)
    (options options' : CompileOptions) (w v : World) : Prop :=
  ∀ (area area' : StagingArea) (w₁ v₁ : World) (disk disk' : Disk),
    Creates settings tag options w area w₁ → Creates settings tag options' v area' v₁ →
    area.writeEntry w₁.disk w₁.cwd (EntryExtension.ofTag tag) source =
      .ok (area.entryPath (EntryExtension.ofTag tag), disk) →
    area'.writeEntry v₁.disk v₁.cwd (EntryExtension.ofTag tag) source =
      .ok (area'.entryPath (EntryExtension.ofTag tag), disk') →
    ∀ behaviour, Behaves program projectRoot settings tag options area w₁ disk behaviour ↔
      Behaves program projectRoot settings tag options' area' v₁ disk' behaviour

lemma BehavesAlike.symm
    (h : BehavesAlike program projectRoot settings source tag options options' w v) :
    BehavesAlike program projectRoot settings source tag options' options v w :=
  fun area area' w₁ v₁ disk disk' created created' written written' behaviour =>
    (h area' area v₁ w₁ disk' disk created' created written' written behaviour).symm

/-- What a compilation makes of one behaviour in two areas is the same but for the area. -/
lemma Behaviour.Yields.alike {limit? : Option Duration} {area area' : StagingArea}
    {behaviour : Behaviour} {result result' : Except Failure Bundle}
    (h : behaviour.Yields program limit? tag area result)
    (h' : behaviour.Yields program limit? tag area' result') :
    ResultsAlike area.path area'.path result result' := by
  cases h with
  | refused fault =>
    cases h'
    exact .failed (.same _)
  | failed h =>
    cases h' with
    | failed h' =>
      rw [Except.error.inj (h.symm.trans h')]
      exact .failed (.same _)
  | overrun inForce =>
    cases h' with
    | overrun inForce' =>
      rw [Option.some.inj (inForce.symm.trans inForce')]
      exact .failed (.same _)
  | unread fault =>
    cases h'
    exact .failed (.outputRead (.inside [outputName, bundleName]) (.same fault))
  | stuck fault =>
    cases h'
    exact .failed (.cleanup (.inside []) (.at (.inside []) (.same fault)))
  | bundled elapsed =>
    cases h' with
    | bundled elapsed' => exact .bundled _ elapsed'

/-- A call comes to the same outcome in two worlds with the same files in which the program behaves
the same. -/
lemma exists_outcome_alike {stage : Stage} {result : Except Failure Bundle}
    (same : w.Resembles settings.stagingRoot v) (limits : options'.limit = options.limit)
    (live : isCancelled w options = false) (live' : isCancelled v options' = false)
    (alike : BehavesAlike program projectRoot settings source tag options options' w v)
    (h : Compilation.Outcome (.webpack program projectRoot) settings source tag options w stage w'
      result) :
    ∃ stage' v' result', Compilation.Outcome (.webpack program projectRoot) settings source tag
      options' v stage' v' result' ∧ SameButName result result' := by
  have hlimits : limitOf settings options' = limitOf settings options := by
    rw [limitOf, limitOf, limits]
  cases hinvoked : stage.isInvoked with
  | true =>
    obtain ⟨area, w₁, disk, behaviour, created, written, behaves, yields⟩ :=
      exists_behaves_of_outcome h hinvoked
    obtain ⟨v₁, parent, random, random', created', lettered, lettered', rfl, hwritten⟩ :=
      exists_creates_alike same live' created source
    cases hwritten with
    | failed unwritten _ =>
      rw [written] at unwritten
      cases unwritten
    | written _ written' =>
      have behaves' := (alike _ _ _ _ _ _ created created' written written' behaviour).mp behaves
      obtain ⟨stage', v', result', houtcome, yields'⟩ :=
        exists_outcome_of_behaves created' written' behaves'
      rw [hlimits] at yields'
      exact ⟨stage', v', result', houtcome, parent, random, random', lettered, lettered',
        yields.alike yields'⟩
  | false =>
    cases h with
    | token cancelled =>
      rw [live] at cancelled
      cases cancelled
    | creation _ refused => exact ⟨.creation, exists_creation_alike _ same live' refused⟩
    | entry created unwritten =>
      exact ⟨.entry, exists_entry_alike _ same live' created unwritten⟩
    | limit _ _ _ => cases hinvoked
    | toolchain _ _ => cases hinvoked
    | bundle _ _ _ => cases hinvoked
    | removal _ _ _ _ => cases hinvoked
    | success _ _ _ _ => cases hinvoked

end SnippetForge.Webpack
