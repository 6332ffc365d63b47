import Mustache.Proofs.HostAnswers
import Mustache.Proofs.HostsInStep
import Mustache.Template

/-!
# Renders one after the other

Templates that are rendered on the same host can leave something behind for the next ones. Two hosts
that match go through all of them alike, and a watched host keeps the questions of them all.
-/

namespace Mustache

set_option autoImplicit false

variable {First Second : Type} [Host First] [Host Second]

/-- Watching a host changes none of its answers. -/
theorem Watched.inStep :
    Host.InStep fun (host : First) (watched : Watched First) => watched.host = host where
  partial? host watched name same := by
    subst same
    exact ⟨rfl, rfl⟩
  expand host watched text pair same := by
    subst same
    exact ⟨rfl, rfl⟩

/-- A template with the options and the data to render it with. -/
structure Rendering where
  template : Template
  options : Options
  data : Value

namespace Rendering

/-- Renders one after the other on the same host. -/
def renderEach {State : Type} [Host State] :
    List Rendering → State → List (Except Stop String) × State
  | [], host => ([], host)
  | rendering :: rest, host =>
    let rendered := rendering.template.renderWith rendering.options rendering.data host
    let others := renderEach rest rendered.2
    (rendered.1 :: others.1, others.2)

theorem renderWith_watched (rendering : Rendering) (watched : Watched First) :
    (rendering.template.renderWith rendering.options rendering.data watched).1 =
        (rendering.template.renderWith rendering.options rendering.data watched.host).1 ∧
      (rendering.template.renderWith rendering.options rendering.data watched).2.host =
        (rendering.template.renderWith rendering.options rendering.data watched.host).2 := by
  have agree := Machine.render_agrees Watched.inStep (rfl : watched.host = watched.host) rfl
    (Machine.new rendering.options) (Machine.new rendering.options) rfl rendering.template.code
    rendering.data
  unfold Template.renderWith
  dsimp only
  rw [agree.outcome, agree.output]
  exact ⟨rfl, agree.hosts⟩

/-- What is rendered on a watched host is what is rendered on the host. -/
theorem renderEach_watched (renderings : List Rendering) (watched : Watched First) :
    (renderEach renderings watched).1 = (renderEach renderings watched.host).1 ∧
      (renderEach renderings watched).2.host = (renderEach renderings watched.host).2 := by
  induction renderings generalizing watched with
  | nil => exact ⟨rfl, rfl⟩
  | cons rendering rest ih =>
    obtain ⟨same, kept⟩ := rendering.renderWith_watched watched
    obtain ⟨others, after⟩ :=
      ih (rendering.template.renderWith rendering.options rendering.data watched).2
    simp only [renderEach]
    rw [same, others, after, kept]
    exact ⟨rfl, rfl⟩

variable {alike : RunCause → RunCause → Prop} {related : First → Second → Prop}
  {fits : First → Prop}

theorem renderWith_follows (matching : Host.Matches alike related fits)
    (ambient : ∀ first second, related first second → Host.ambient? second = Host.ambient? first)
    (rendering : Rendering) (first : First) :
    (fits (rendering.template.renderWith rendering.options rendering.data first).2 → fits first) ∧
    ∀ second : Second, related first second →
      fits (rendering.template.renderWith rendering.options rendering.data first).2 →
      EndsAlike (Stop.Alike alike)
          (rendering.template.renderWith rendering.options rendering.data first).1
          (rendering.template.renderWith rendering.options rendering.data second).1 ∧
        related (rendering.template.renderWith rendering.options rendering.data first).2
          (rendering.template.renderWith rendering.options rendering.data second).2 := by
  unfold Template.renderWith Machine.render
  dsimp only [Machine.new]
  have entered := fun context output => Machine.renderInto_follows matching
    ⟨rendering.options, context, []⟩ rendering.template.code first output
  refine ⟨(entered _ _).1, ?_⟩
  intro second matched fit
  have follow := (entered _ _).2 second matched fit
  rw [ambient first second matched, follow.output]
  exact ⟨follow.outcome.map _, follow.hosts⟩

/-- If the host is in a fit state at the end, each template came to the same output or to an error
alike on a related host, and the hosts are related again. -/
theorem renderEach_follows (matching : Host.Matches alike related fits)
    (ambient : ∀ first second, related first second → Host.ambient? second = Host.ambient? first)
    (renderings : List Rendering) (first : First) :
    (fits (renderEach renderings first).2 → fits first) ∧
    ∀ second : Second, related first second → fits (renderEach renderings first).2 →
      List.Forall₂ (EndsAlike (Stop.Alike alike)) (renderEach renderings first).1
          (renderEach renderings second).1 ∧
        related (renderEach renderings first).2 (renderEach renderings second).2 := by
  induction renderings generalizing first with
  | nil => exact ⟨id, fun second matched _ => ⟨.nil, matched⟩⟩
  | cons rendering rest ih =>
    obtain ⟨before, follows⟩ := rendering.renderWith_follows matching ambient first
    obtain ⟨between, others⟩ :=
      ih (rendering.template.renderWith rendering.options rendering.data first).2
    simp only [renderEach]
    refine ⟨fun fit => before (between fit), ?_⟩
    intro second matched fit
    obtain ⟨ends, kept⟩ := follows second matched (between fit)
    obtain ⟨rests, after⟩ := others _ kept fit
    exact ⟨.cons ends rests, after⟩

end Rendering

end Mustache
