import AppRafter.Application.Passes

set_option autoImplicit false

namespace AppRafter.Application

open Lib Migration List

def trailOf (record : List (AppWorld × Exchange appApi)) : List Mark := marks (record.map Prod.snd)

-- What a pass has not written is as it was when it began; what it has read was there.
structure Linked (start : AppWorld) (record : List (AppWorld × Exchange appApi)) (world : AppWorld) : Prop where
  named : world.app.name = start.app.name ∧ world.app.ns = start.app.ns
  listed : ∀ then_ plans, (then_, (⟨.listPlans, .ok plans⟩ : Exchange appApi)) ∈ record → then_.plans = plans
  status : .wrote ∉ trailOf record → world.app.status = start.app.status
  unapplied : (∀ deployment reply, .applied deployment reply ∉ trailOf record) →
    world.deployment = start.deployment ∧ world.rendered = start.rendered
  applied : ∀ deployment, .applied deployment (.ok ()) ∈ trailOf record →
    world.deployment = some deployment ∧ world.rendered = (start.withDeployment deployment).rendered
  read : ∀ running, .read (.ok running) ∈ trailOf record → running = start.deployment

theorem linked_start (world : AppWorld) : Linked world [] world where
  named := ⟨rfl, rfl⟩
  listed _ _ member := absurd member not_mem_nil
  status _ := rfl
  unapplied _ := ⟨rfl, rfl⟩
  applied _ member := absurd member not_mem_nil
  read _ member := absurd member not_mem_nil

variable {start world : AppWorld} {record : List (AppWorld × Exchange appApi)}
  {parseImageRef : String → Option ImageRef} {app : ApplicationObject} {effective : ApplicationBaseSpec}
  {trail : List Mark} {decision : ImageDecision} {left : Mark} {request : AppRequest}

theorem linked_change {after : AppWorld}
    (change : AppChange) (linked : Linked start record world) (changed : changeApp world change = some after) :
    Linked start record after := by
  obtain ⟨name, ns, status, deployment, rendered⟩ := change_app_frame change changed
  constructor
  · rw [name, ns]
    exact linked.named
  · exact linked.listed
  · rw [status]
    exact linked.status
  · rw [deployment, rendered]
    exact linked.unapplied
  · rw [deployment, rendered]
    exact linked.applied
  · exact linked.read

theorem trail_snoc (record : List (AppWorld × Exchange appApi)) (world : AppWorld) (exchange : Exchange appApi) :
    trailOf (record ++ [(world, exchange)]) = trailOf record ++ (mark exchange).toList := by
  simp only [trailOf]
  rw [map_append]
  exact marks_snoc _ exchange

theorem listed_snoc (world : AppWorld) (fate : AppFate) (request : AppRequest)
    (listed : ∀ then_ plans, (then_, (⟨.listPlans, .ok plans⟩ : Exchange appApi)) ∈ record → then_.plans = plans)
    (then_ : AppWorld) (plans : List MigrationPlan)
    (member : (then_, (⟨.listPlans, .ok plans⟩ : Exchange appApi)) ∈
      record ++ [(world, ⟨request, (serveApp world fate request).1⟩)]) : then_.plans = plans := by
  cases mem_append.mp member with
  | inl earlier => exact listed then_ plans earlier
  | inr last =>
    have same := Prod.mk.inj (mem_singleton.mp last)
    cases request with
    | listPlans =>
      have replied : fate.read world.plans = .ok plans := by
        have pair := same.2
        simp only [Exchange.mk.injEq, heq_eq_eq, true_and] at pair
        exact pair.symm
      rw [same.1]
      exact read_replied fate world.plans plans replied
    | _ => simp at same

variable (decided : ImageDecided parseImageRef app effective trail decision)

include decided in
theorem decided_marks (member : left ∈ trail) : (∃ image reply, left = .looked image reply) ∨ ∃ reply, left = .read reply := by
  cases decided with
  | pinned pin honoured => cases member
  | verbatim off => cases member
  | cached tag digest prior named found same known => cases member
  | attempted tag trail attempt running now condition named looked =>
    cases looked with
    | unreadable running unread => exact .inr ⟨_, mem_singleton.mp member⟩
    | digest image parsed fixed => cases member
    | answered image _ parsed moving valid => exact .inl ⟨image, _, mem_singleton.mp member⟩
    | failed image reply why running parsed moving broken =>
      cases mem_cons.mp member with
      | inl first => exact .inl ⟨image, reply, first⟩
      | inr second => exact .inr ⟨_, mem_singleton.mp second⟩

variable (deployment : Deployment)

include decided in
theorem decided_unapplied (reply : Reply Unit) : .applied deployment reply ∉ trail := by
  intro member
  obtain ⟨_, _, same⟩ | ⟨_, same⟩ := decided_marks decided member
  · exact nomatch same
  · exact nomatch same

variable (fate : AppFate)

theorem linked_calm (linked : Linked start record world) (quiet : calm request = true) :
    Linked start (record ++ [(world, ⟨request, (serveApp world fate request).1⟩)]) (serveApp world fate request).2 := by
  have trail : trailOf (record ++ [(world, ⟨request, (serveApp world fate request).1⟩)]) = trailOf record := by
    simp only [trailOf]
    rw [map_append]
    exact marks_calm _ request _ quiet
  have listed := listed_snoc world fate request linked.listed
  rcases serve_app_frame world fate request with ⟨app, deployment, rendered⟩ | ⟨_, same, _⟩ | ⟨_, same, _⟩
  · constructor
    · rw [app]
      exact linked.named
    · exact listed
    · rw [trail, app]
      exact linked.status
    · rw [trail, deployment, rendered]
      exact linked.unapplied
    · rw [trail, deployment, rendered]
      exact linked.applied
    · rw [trail]
      exact linked.read
  · rw [same] at quiet
    exact absurd quiet Bool.false_ne_true
  · rw [same] at quiet
    exact absurd quiet Bool.false_ne_true

theorem linked_snoc {after : AppWorld} {fate : AppFate} (linked : Linked start record world)
    (marked : mark ⟨request, (serveApp world fate request).1⟩ = some left)
    (named : after.app.name = world.app.name ∧ after.app.ns = world.app.ns)
    (status : left ≠ .wrote → after.app.status = world.app.status)
    (kept : (∀ deployment reply, left ≠ .applied deployment reply) →
      after.deployment = world.deployment ∧ after.rendered = world.rendered)
    (first : ∀ deployment reply, left = .applied deployment reply → ∀ earlier answer, .applied earlier answer ∉ trailOf record)
    (applied : ∀ deployment, left = .applied deployment (.ok ()) →
      after.deployment = some deployment ∧ after.rendered = (start.withDeployment deployment).rendered)
    (read : ∀ running, left = .read (.ok running) → running = start.deployment) :
    Linked start (record ++ [(world, ⟨request, (serveApp world fate request).1⟩)]) after := by
  have trail : trailOf (record ++ [(world, ⟨request, (serveApp world fate request).1⟩)]) = trailOf record ++ [left] := by
    rw [trail_snoc, marked]
    rfl
  have listed := listed_snoc world fate request linked.listed
  constructor
  · rw [named.1, named.2]
    exact linked.named
  · exact listed
  · rw [trail]
    intro unwritten
    rw [status fun last => unwritten (mem_append_right _ (last ▸ mem_singleton_self _))]
    exact linked.status fun member => unwritten (mem_append_left _ member)
  · rw [trail]
    intro unapplied
    have same := kept fun deployment reply last =>
      unapplied deployment reply (mem_append_right _ (last ▸ mem_singleton_self _))
    rw [same.1, same.2]
    exact linked.unapplied fun deployment reply member => unapplied deployment reply (mem_append_left _ member)
  · rw [trail]
    intro deployment member
    cases mem_append.mp member with
    | inl earlier =>
      have same := kept fun other reply last => first other reply last deployment _ earlier
      rw [same.1, same.2]
      exact linked.applied deployment earlier
    | inr last => exact applied deployment (mem_singleton.mp last).symm
  · rw [trail]
    intro running member
    cases mem_append.mp member with
    | inl earlier => exact linked.read running earlier
    | inr last => exact read running (mem_singleton.mp last).symm

theorem linked_looked (image : ImageRef) (fate : AppFate) (linked : Linked start record world) :
    Linked start (record ++ [(world, ⟨.headManifest image, (serveApp world fate (.headManifest image)).1⟩)])
      (serveApp world fate (.headManifest image)).2 := by
  refine linked_snoc linked rfl ⟨rfl, rfl⟩ (fun _ => rfl) (fun _ => ⟨rfl, rfl⟩) ?_ ?_ ?_
  · exact fun _ _ same => Mark.noConfusion same
  · exact fun _ same => Mark.noConfusion same
  · exact fun _ same => Mark.noConfusion same

theorem linked_read
    (linked : Linked start record world) (lookups : ∀ left ∈ trailOf record, ∃ image reply, left = .looked image reply) :
    Linked start (record ++ [(world, ⟨.getDeployment, (serveApp world fate .getDeployment).1⟩)])
      (serveApp world fate .getDeployment).2 := by
  have unapplied : ∀ deployment reply, .applied deployment reply ∉ trailOf record := by
    intro deployment reply member
    obtain ⟨image, answer, same⟩ := lookups _ member
    cases same
  refine linked_snoc linked rfl ⟨rfl, rfl⟩ (fun _ => rfl) (fun _ => ⟨rfl, rfl⟩) ?_ ?_ ?_
  · exact fun _ _ same => Mark.noConfusion same
  · exact fun _ same => Mark.noConfusion same
  · intro running same
    rw [← read_replied fate world.deployment running (Mark.read.inj same)]
    exact (linked.unapplied unapplied).1

theorem linked_applied (linked : Linked start record world)
    (unapplied : ∀ earlier reply, .applied earlier reply ∉ trailOf record) :
    Linked start (record ++ [(world, ⟨.applyDeployment deployment, (serveApp world fate (.applyDeployment deployment)).1⟩)])
      (serveApp world fate (.applyDeployment deployment)).2 := by
  have app : (serveApp world fate (.applyDeployment deployment)).2.app = world.app := by
    simp only [serveApp, AppFate.write]
    split <;> rfl
  refine linked_snoc linked rfl (by rw [app]; exact ⟨rfl, rfl⟩) (fun _ => by rw [app]) ?_ (fun _ _ _ => unapplied) ?_ ?_
  · intro none
    exact absurd rfl (none deployment _)
  · intro shown same
    obtain ⟨own, replied⟩ := Mark.applied.inj same
    have made : (serveApp world fate (.applyDeployment deployment)).2 = world.withDeployment deployment := write_replied replied
    rw [made, ← own]
    refine ⟨rfl, ?_⟩
    simp only [AppWorld.withDeployment, (linked.unapplied unapplied).2]
  · exact fun _ same => Mark.noConfusion same

theorem linked_wrote (status : ApplicationStatus) (fate : AppFate) (linked : Linked start record world) :
    Linked start (record ++ [(world, ⟨.applyStatus status, (serveApp world fate (.applyStatus status)).1⟩)])
      (serveApp world fate (.applyStatus status)).2 := by
  have frame : ((serveApp world fate (.applyStatus status)).2.app.name = world.app.name ∧
      (serveApp world fate (.applyStatus status)).2.app.ns = world.app.ns) ∧
      ((serveApp world fate (.applyStatus status)).2.deployment = world.deployment ∧
      (serveApp world fate (.applyStatus status)).2.rendered = world.rendered) := by
    simp only [serveApp, AppFate.write]
    split <;> exact ⟨⟨rfl, rfl⟩, rfl, rfl⟩
  refine linked_snoc linked rfl frame.1 (fun other => absurd rfl other) (fun _ => frame.2) ?_ ?_ ?_
  · exact fun _ _ same => Mark.noConfusion same
  · exact fun _ same => Mark.noConfusion same
  · exact fun _ same => Mark.noConfusion same

theorem linked_serve (parseImageRef : String → Option ImageRef) (sha256Hex : String → String) (start : AppWorld)
    (record : List (AppWorld × Exchange appApi)) (world : AppWorld) (fate : AppFate) (request : AppRequest)
    (linked : Linked start record world)
    (admitted : appAllowed parseImageRef sha256Hex start.app (record.map Prod.snd) request) :
    Linked start (record ++ [(world, ⟨request, (serveApp world fate request).1⟩)]) (serveApp world fate request).2 := by
  cases request with
  | headManifest image => exact linked_looked image fate linked
  | getDeployment => exact linked_read fate linked admitted
  | applyDeployment deployment =>
    obtain ⟨_, decision, decided, _⟩ := admitted
    exact linked_applied deployment fate linked (decided_unapplied decided)
  | applyStatus status => exact linked_wrote status fate linked
  | _ => exact linked_calm fate linked rfl

end AppRafter.Application
