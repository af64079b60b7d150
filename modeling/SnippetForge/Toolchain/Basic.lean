import SnippetForge.Report
import SnippetForge.World

/-!
# Toolchains

A toolchain bundles an entry file. It is a machine that is started with a request and then resumed
until it has finished. Each time it is resumed it makes a step, says that it has to wait for
something to happen in the world, or finishes with a report or a failure. It is handed a
cancellation token; once that is fired it should stop and fail as cancelled.

What a toolchain does to the world in a step is up to it. Nothing in a compilation relies on good
manners.
-/

namespace SnippetForge

/-- What a toolchain answers when it is resumed. -/
inductive Turn (σ : Type)
  /-- It has made a step. -/
  | running (state : σ)
  /-- It cannot go on until something happens. -/
  | waiting
  /-- It has come to an end. -/
  | finished (result : Except Failure Report)

/-- A program that bundles, with states in `σ`. -/
structure Toolchain (σ : Type) where
  name : String
  start : World → Request → TokenId → World × σ
  resume : World → Request → TokenId → σ → World × Turn σ

end SnippetForge
