import PropertyBinding.Proofs.ActiveWriter
import PropertyBinding.Proofs.UpdateCourse

namespace PropertyBinding
namespace Engine

/-!
# Updates that are overtaken

Foreign code in the middle of an update can retire its binding, or destroy its
target.  In the first case the update stores nothing more, except the value that an
interceptor of the write has just been asked about.  In the second it is at an end:
it stores, announces and reports nothing, and the latest failure of the binding is
what it was.
-/

variable {σ : Type} {host : Host σ} {world after : World σ} {id : BindingId} {former : Binding}
  {bound : Nat} {flags : WriteFlags}

/-- Every update has a trace, which looks as the account of the update says. -/
theorem update_traced (plain : host.Plain) (found : world.bindings[id]? = some former)
    (run : runWithin bound host (update id flags) world = some ((), after)) :
    ∃ trace : Trace σ,
      update id flags (Outside.within host bound).traced (world.traced (.empty world)) =
        some ((), after.traced trace) ∧
      Occasion.Complete ⟨Outside.within host bound, id, former, world⟩ (after.traced trace) := by
  have mirrored := update_mirrors id flags (Outside.within host bound) (world.traced (.empty world))
  have known : update id flags (Outside.within host bound)
      (world.traced (.empty world)).untraced = some ((), after) := run
  rw [known, Option.map_eq_some_iff] at mirrored
  rcases mirrored with ⟨⟨_, last⟩, traced, same⟩
  cases same
  exact ⟨last.trace, traced, update_completes (within_onward plain bound) found flags _ _ traced⟩

/-- An update of a retired binding is refused. -/
theorem update_of_retired {outside : Outside σ} (found : world.bindings[id]? = some former)
    (retired : former.retired = true) :
    Ensures outside (update id flags) world fun _ after => after = world := by
  refine .lookBinding ?_
  rw [found]
  refine .look ?_
  rw [if_pos (by simp [retired])]
  exact .value rfl

/--
A retired binding is not written by an update, but for one store.  Whether it is
retired before the update or by foreign code in the middle of it, it stays retired,
and no stretch that begins after that changes a cell, except the one after an
interceptor: that one may store in the property the interceptor was asked about.
An update stores at most once, and one of a binding that is retired from the start
does nothing at all.
-/
theorem retired_stores_intercepted (plain : host.Plain)
    (found : world.bindings[id]? = some former)
    (run : runWithin bound host (update id flags) world = some ((), after)) :
    ∃ trace : Trace σ,
      update id flags (Outside.within host bound).traced (world.traced (.empty world)) =
        some ((), after.traced trace) ∧
      trace.Linked (Outside.within host bound) world ∧
      (trace.stretches after).Pairwise (fun former latter =>
        former.start.isRetired id = true → latter.start.isRetired id = true) ∧
      (trace.stretches after).Pairwise (fun former latter => former.Untouched ∨ latter.Untouched) ∧
      (∀ stretch ∈ trace.stretches after, stretch.start.isRetired id = true →
        stretch.Untouched ∨ ∃ interceptor object value index cell,
          stretch.visit?.map Visit.query = some (.intercept interceptor object value) ∧
          stretch.stop.graph = stretch.start.graph.setCell ⟨object, index⟩ cell) ∧
      (former.retired = true → trace = .empty world ∧ after = world) := by
  rcases update_traced plain found run with ⟨trace, traced, complete⟩
  have listed : ∀ stretch ∈ trace.stretches after, stretch.Sound id := by
    intro stretch member
    rcases Trace.mem_stretches.mp member with earlier | rfl
    · exact complete.sound stretch earlier
    · exact complete.present
  refine ⟨trace, traced, complete.linked, ?_, ?_, fun stretch member retired => ?_, fun retired => ?_⟩
  · exact complete.linked.retired (within_onward plain bound) complete.sound after
  · refine List.pairwise_append.mpr ⟨complete.apart, List.pairwise_singleton _ _, ?_⟩
    intro stretch member last same
    cases List.mem_singleton.mp same
    exact complete.single stretch member
  · exact (listed stretch member).intercepted retired
  · have refused : Ensures (Outside.within host bound).traced (update id flags)
        (world.traced (.empty world)) fun _ last => last = world.traced (.empty world) :=
      update_of_retired found retired
    have still := refused _ _ traced
    exact ⟨congrArg World.trace still, congrArg World.untraced still⟩

/-! ## A panel with interceptors -/

section Panel

/--
A host with two interceptors of the first flag.  One turns the flag on, and returns
the value it was asked about.  The other destroys the panel, makes another one in
its place, and returns a value of the wrong type.
-/
def meddler : Host Unit := { Host.silent with
  intercept := fun interceptor panel value => do
    if interceptor = 0 then
      let _ ← (write ⟨panel, 1⟩ (.bool true) { bypass := true }).run
      return value
    else
      let _ ← destroy panel
      let _ ← create 0 none
      return .int 0 }

theorem meddler_plain : meddler.Plain := by
  refine ⟨silent_plain.call, silent_plain.callTyped, fun interceptor panel value => ?_,
    silent_plain.announce, silent_plain.handle, silent_plain.retire⟩
  unfold meddler
  dsimp only
  split
  · exact .sequence (.write _ _ _) fun _ => .value _
  · exact .sequence (.destroy _) fun _ => .sequence (.create _ _) fun _ => .value _

/-- The first flag with an interceptor, and with a binding to the source that is its active writer. -/
def interceptPanel (interceptor : HostId) : Attempt PropertyError Unit Unit := do
  let panel ← Attempt.perform (create 0 none)
  installInterceptor (panelRef 1) interceptor
  let id ← createBinding ⟨0, {}, .empty⟩ ⟨panelRef 1, none⟩
    (.function (.mk 0 "source" .none (.script [] (.member .this "source") [])))
    { this? := some panel }
  install id
  Attempt.perform (setEnabled id true none)

/-- The panel with an interceptor. -/
def interceptedPanel (interceptor : HostId) : World Unit :=
  panelAfter (interceptPanel interceptor).run (.initial panelSchema ())

/-- The panel with an interceptor after an update of its binding. -/
def meddledPanel (interceptor : HostId) : World Unit :=
  ((runWithin 3 meddler (update 0 .none) (interceptedPanel interceptor)).map Prod.snd).getD
    (interceptedPanel interceptor)

/-- The trace of that update. -/
def meddledTrace (interceptor : HostId) : Trace Unit :=
  ((update 0 .none (Outside.within meddler 3).traced
    ((interceptedPanel interceptor).traced (.empty (interceptedPanel interceptor)))).map
      fun out => out.2.trace).getD (.empty (interceptedPanel interceptor))

theorem meddledPanel_run {interceptor : HostId}
    (ends : (runWithin 3 meddler (update 0 .none) (interceptedPanel interceptor)).isSome = true) :
    runWithin 3 meddler (update 0 .none) (interceptedPanel interceptor) =
      some ((), meddledPanel interceptor) :=
  runWithin_of_ends _ ends

theorem meddledTrace_eq {interceptor : HostId} {trace : Trace Unit}
    (traced : update 0 .none (Outside.within meddler 3).traced
      ((interceptedPanel interceptor).traced (.empty (interceptedPanel interceptor))) =
        some ((), (meddledPanel interceptor).traced trace)) :
    meddledTrace interceptor = trace := by
  unfold meddledTrace
  rw [traced]
  rfl

/-- All that is stored after the binding is retired is what the interceptor returns. -/
theorem meddled_panel_stores_intercepted :
    meddler.Plain ∧ (∃ former, (interceptedPanel 0).bindings[0]? = some former) ∧
    runWithin 3 meddler (update 0 .none) (interceptedPanel 0) = some ((), meddledPanel 0) ∧
    (meddledTrace 0).Linked (Outside.within meddler 3) (interceptedPanel 0) ∧
    ∀ stretch ∈ (meddledTrace 0).stretches (meddledPanel 0), stretch.start.isRetired 0 = true →
      stretch.Untouched ∨ ∃ interceptor object value index cell,
        stretch.visit?.map Visit.query = some (.intercept interceptor object value) ∧
        stretch.stop.graph = stretch.start.graph.setCell ⟨object, index⟩ cell := by
  have run : runWithin 3 meddler (update 0 .none) (interceptedPanel 0) =
      some ((), meddledPanel 0) := meddledPanel_run (by decide +kernel)
  have known : ((interceptedPanel 0).bindings[0]?).isSome = true := by decide +kernel
  rcases Option.isSome_iff_exists.mp known with ⟨former, found⟩
  rcases retired_stores_intercepted meddler_plain found run with
    ⟨trace, traced, linked, _, _, stores, _⟩
  rw [meddledTrace_eq traced]
  exact ⟨meddler_plain, ⟨former, found⟩, run, linked, stores⟩

/--
The interceptor retires the binding by turning the flag on, and then the update,
which found the flag off and its source off, turns it off again.
-/
theorem meddled_flag_stored_back :
    (meddledTrace 0).start.isRetired 0 = true ∧
    ((meddledTrace 0).start.graph.cell? (panelRef 1)).map (·.holds (.bool true)) = some true ∧
    ((meddledPanel 0).graph.cell? (panelRef 1)).map (·.holds (.bool false)) = some true := by
  decide +kernel

end Panel

/-! ## Destruction -/

/--
An update whose target is destroyed is at an end.  If the target is dead when the
call returns, or the interceptor that was asked about it, the stretch that begins
then is the last one.  In it the update stores, announces and reports nothing,
whatever the call or the interceptor resulted in.  The latest failure of the binding
is what it was before the update, and the binding is no longer being updated.
-/
theorem destruction_silences_update (plain : host.Plain)
    (found : world.bindings[id]? = some former)
    (run : runWithin bound host (update id flags) world = some ((), after)) :
    ∃ trace : Trace σ,
      update id flags (Outside.within host bound).traced (world.traced (.empty world)) =
        some ((), after.traced trace) ∧
      trace.Linked (Outside.within host bound) world ∧
      (∀ stretch ∈ trace.past, ¬stretch.Fatal former.target) ∧
      ((trace.present after).Fatal former.target →
        trace.start.Silent after ∧ after.error? id = former.error? ∧
        (after.bindings[id]?).map (·.updating) = some false) := by
  rcases update_traced plain found run with ⟨trace, traced, complete⟩
  refine ⟨trace, traced, complete.linked, complete.passed, fun fatal => ?_⟩
  rcases complete.silent fatal with ⟨silent, failure⟩
  exact ⟨silent, (silent.error? id).trans failure, complete.idle fatal⟩

/--
The second interceptor destroys the panel and makes another one in its place.  The
update notices nothing of the other panel, and nobody notices anything of the update.
-/
theorem meddled_panel_destruction_silent :
    meddler.Plain ∧
    runWithin 3 meddler (update 0 .none) (interceptedPanel 1) = some ((), meddledPanel 1) ∧
    ((meddledTrace 1).present (meddledPanel 1)).Fatal ⟨panelRef 1, none⟩ ∧
    (meddledPanel 1).graph.isAlive ⟨0, 1⟩ = true ∧
    (meddledTrace 1).start.Silent (meddledPanel 1) ∧ (meddledPanel 1).error? 0 = none ∧
    ((meddledPanel 1).bindings[0]?).map (·.updating) = some false := by
  have run : runWithin 3 meddler (update 0 .none) (interceptedPanel 1) =
      some ((), meddledPanel 1) := meddledPanel_run (by decide +kernel)
  have known : ((interceptedPanel 1).bindings[0]?).map (fun former =>
      (former.target, former.error?)) = some (⟨panelRef 1, none⟩, none) := by decide +kernel
  rcases Option.map_eq_some_iff.mp known with ⟨former, found, same⟩
  have target : former.target = ⟨panelRef 1, none⟩ := congrArg Prod.fst same
  have unfailed : former.error? = none := congrArg Prod.snd same
  have fatal : ((meddledTrace 1).present (meddledPanel 1)).Fatal ⟨panelRef 1, none⟩ :=
    ⟨by decide +kernel, _, rfl, _, rfl, rfl⟩
  rcases destruction_silences_update meddler_plain found run with ⟨trace, traced, _, _, silences⟩
  rw [meddledTrace_eq traced] at fatal ⊢
  rw [target, unfailed] at silences
  rcases silences fatal with ⟨silent, failure, idle⟩
  exact ⟨meddler_plain, run, fatal, by decide +kernel, silent, failure, idle⟩

end Engine
end PropertyBinding
