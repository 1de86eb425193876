import A9N.Kernel.Ipc.Placement

/-!
# Wake-ups on other cores

A process that is put into the ready queue of another core is noticed there only through a
reschedule interrupt. `Heralded` says of everybody that a piece of kernel code has queued elsewhere
that the interrupt was sent or refused, or that `mark_scheduled` sent none.
-/

namespace A9N.Kernel

open Hal

namespace ProcState

structure Enters (who : ProcessId → Prop) (st st' : ProcState) : Prop where
  affinity : ∀ id, (st'.processes id).coreAffinity = (st.processes id).coreAffinity
  ipis : st'.ipis = st.ipis
  unsignalled : st'.unsignalled = st.unsignalled
  entered : ∀ id, (st'.processes id).isInReadyQueue = true →
    (st.processes id).isInReadyQueue = true ∨ who id

/-- The interrupts that were sent were accepted, those that `mark_scheduled` left out are for
processes that `omits` admits, and everybody in a ready queue was there before, is of this core, or
is accounted for. -/
structure Heralded (p : Platform) (sendIpi : Nat → Bool) (core : Nat) (omits : ProcessId → Prop)
    (st st' : ProcState) : Prop where
  affinity : ∀ id, (st'.processes id).coreAffinity = (st.processes id).coreAffinity
  signals : ∃ sent omitted, st'.ipis = sent ++ st.ipis ∧
    st'.unsignalled = omitted ++ st.unsignalled ∧ (∀ other ∈ sent, sendIpi other = true) ∧
    (∀ id ∈ omitted, omits id) ∧ ∀ id, (st'.processes id).isInReadyQueue = true →
      (st.processes id).isInReadyQueue = true ∨ st.affinity p id = core ∨
        st.affinity p id ∈ sent ∨ id ∈ omitted ∨ sendIpi (st.affinity p id) = false

def entering (who : ProcessId → Prop) : Grant → Prop
  | .enter id => who id
  | .interrupt => False
  | _ => True

variable {p : Platform} {root : ProcessId → Word} {sendIpi : Nat → Bool} {core : Nat}
  {who omits : ProcessId → Prop} {st st' st'' : ProcState} {target : ProcessId}

theorem affinity_congr {id : ProcessId}
    (h : (st'.processes id).coreAffinity = (st.processes id).coreAffinity) :
    st'.affinity p id = st.affinity p id := by
  unfold affinity
  rw [h]

theorem affinity_of_not_remote (hsingle : p.smpEnabled = false → core = 0) {id : ProcessId}
    (h : ¬ (p.smpEnabled = true ∧ st.affinity p id ≠ core)) : st.affinity p id = core := by
  by_cases hsmp : p.smpEnabled = true
  · by_contra hne
    exact h ⟨hsmp, hne⟩
  · rw [hsingle (by simpa using hsmp)]
    unfold affinity
    rw [if_neg hsmp]

/-! ## Who enters a queue -/

namespace Enters

theorem mono {who' : ProcessId → Prop} (h : Enters who st st') (hwho : ∀ id, who id → who' id) :
    Enters who' st st' :=
  ⟨h.affinity, h.ipis, h.unsignalled, fun id hid => (h.entered id hid).imp_right (hwho id)⟩

theorem trans (h : Enters who st st') (h' : Enters who st' st'') : Enters who st st'' where
  affinity id := (h'.affinity id).trans (h.affinity id)
  ipis := h'.ipis.trans h.ipis
  unsignalled := h'.unsignalled.trans h.unsignalled
  entered id hflag := (h'.entered id hflag).elim (h.entered id) .inr

theorem of_touches (h : Touches (entering who) st st') : Enters who st st' where
  affinity id := (h.process id).coreAffinity
  ipis := (h.interrupts.resolve_right id).2.1
  unsignalled := (h.interrupts.resolve_right id).2.2
  entered id := (h.process id).entered

theorem markScheduledOn (st : ProcState) (core : Nat) (target : ProcessId) :
    Enters (· = target) st (st.markScheduledOn core target).state := by
  have hwakes : Touches.Wakes (entering (· = target)) target := ⟨trivial, fun _ _ => trivial, rfl⟩
  exact .of_touches ((Touches.refl st).markScheduledOn hwakes core)

theorem markScheduledOn_refused (core : Nat) (target : ProcessId) :
    (st.markScheduledOn core target).Post (fun _ st' => Enters (· = target) st st')
      (fun _ st' => Enters (fun _ => False) st st') := by
  have hmarked := markScheduledOn st core target
  have hready : Enters (fun _ => False) st ((st.modifyProcess target fun process =>
      { process with quantum := quantumMax }).modifyProcess target fun process =>
        { process with status := .ready }) := .of_touches ((Touches.refl st).awake trivial)
  unfold ProcState.markScheduledOn at hmarked ⊢
  dsimp only at hmarked ⊢
  split_ifs at hmarked ⊢
  · exact hmarked
  · rw [addProcess_eq] at hmarked ⊢
    split_ifs at hmarked ⊢
    · exact hready
    · exact hready
    · exact hmarked
    · exact hmarked

end Enters

/-! ## Who is announced -/

namespace Heralded

theorem refl (st : ProcState) : Heralded p sendIpi core omits st st :=
  ⟨fun _ => rfl, [], [], rfl, rfl, by simp, by simp, fun _ h => .inl h⟩

theorem trans (h : Heralded p sendIpi core omits st st')
    (h' : Heralded p sendIpi core omits st' st'') : Heralded p sendIpi core omits st st'' where
  affinity id := (h'.affinity id).trans (h.affinity id)
  signals := by
    obtain ⟨sent, omitted, hsent, homitted, haccepted, homits, hqueued⟩ := h.signals
    obtain ⟨sent', omitted', hsent', homitted', haccepted', homits', hqueued'⟩ := h'.signals
    refine ⟨sent' ++ sent, omitted' ++ omitted, by rw [hsent', hsent, List.append_assoc],
      by rw [homitted', homitted, List.append_assoc], ?_, ?_, fun id hid => ?_⟩
    · exact fun other hother => (List.mem_append.mp hother).elim (haccepted' other) (haccepted other)
    · exact fun id hid => (List.mem_append.mp hid).elim (homits' id) (homits id)
    · have hlater := hqueued' id hid
      rw [affinity_congr (h.affinity id)] at hlater
      simp only [List.mem_append]
      rcases hlater with hbefore | hafter
      · have hearlier := hqueued id hbefore
        tauto
      · tauto

theorem of_enters (h : Enters who st st') (hwho : ∀ id, who id → st.affinity p id = core) :
    Heralded p sendIpi core omits st st' :=
  ⟨h.affinity, [], [], h.ipis, h.unsignalled, by simp, by simp,
    fun id hid => (h.entered id hid).imp_right fun hin => .inl (hwho id hin)⟩

theorem quiet (h : Enters (fun _ => False) st st') : Heralded p sendIpi core omits st st' :=
  of_enters h fun _ hfalse => hfalse.elim

theorem andThen {ε α β : Type} {o : Outcome ε ProcState α}
    (h : Heralded p sendIpi core omits st o.state) {next : α → ProcState → Outcome ε ProcState β}
    (hnext : ∀ value state, Heralded p sendIpi core omits st state →
      Heralded p sendIpi core omits st (next value state).state) :
    Heralded p sendIpi core omits st (o.andThen next).state :=
  Outcome.andThen_keeps h hnext

theorem signalRemote (h : Enters (· = target) st st') (hsmp : p.smpEnabled = true) :
    Heralded p sendIpi core omits st
      (st'.signalRemote p sendIpi (st.affinity p target) target).state := by
  unfold ProcState.signalRemote rescheduleCore
  dsimp only
  rw [if_pos hsmp]
  split
  next haccepted =>
    refine ⟨h.affinity, [st.affinity p target], [], by simp [ProcState.modifyCpu, h.ipis],
      h.unsignalled, by simpa using haccepted, by simp, fun id hid => ?_⟩
    rcases h.entered id hid with hbefore | rfl
    · exact .inl hbefore
    · exact .inr (.inr (.inl (by simp)))
  next hrefused =>
    refine ⟨h.affinity, [], [], h.ipis, h.unsignalled, by simp, by simp, fun id hid => ?_⟩
    rcases h.entered id hid with hbefore | rfl
    · exact .inl hbefore
    · exact .inr (.inr (.inr (.inr (by simpa using hrefused))))

/-- No interrupt is sent if the woken process has the affinity of the one that is passed for the
running one. -/
theorem markScheduled {current : ProcessId}
    (homits : st.affinity p target = st.affinity p current → omits target) :
    Heralded p sendIpi core omits st (st.markScheduled p sendIpi current target).state := by
  unfold ProcState.markScheduled
  apply Outcome.Post.state (Q := fun _ => Heralded p sendIpi core omits st)
    (E := fun _ => Heralded p sendIpi core omits st) _ (fun _ _ h => h) fun _ _ h => h
  apply ((Enters.markScheduledOn_refused (st.affinity p target) target).mono (fun _ _ h => h)
    fun _ _ h => quiet h).andThen
  intro _ st1 hmarked
  rw [affinity_congr (hmarked.affinity current)]
  split_ifs with hremote
  · exact Outcome.post_of_state (P := Heralded p sendIpi core omits st)
      (signalRemote hmarked hremote.1)
  · have hsame : st.affinity p target = st.affinity p current := by
      by_contra hne
      refine hremote ⟨?_, hne⟩
      by_contra hsingle
      exact hne (by rw [ProcState.affinity, ProcState.affinity, if_neg hsingle, if_neg hsingle])
    refine ⟨hmarked.affinity, [], [target], hmarked.ipis, by simp [hmarked.unsignalled], by simp,
      by simpa using homits hsame, fun id hid => ?_⟩
    rcases hmarked.entered id hid with hbefore | rfl
    · exact .inl hbefore
    · exact .inr (.inr (.inr (.inl (by simp))))

theorem markScheduledWithPreemption (hsingle : p.smpEnabled = false → core = 0)
    {current : ProcessId} (hcurrent : st.affinity p current = core)
    (hhome : ∀ id, (st.cpus core).currentProcess = some id → st.affinity p id = core)
    (target : ProcessId) : Heralded p sendIpi core omits st
      (st.markScheduledWithPreemption p root sendIpi current target).state := by
  unfold ProcState.markScheduledWithPreemption
  apply Outcome.Post.state (Q := fun _ => Heralded p sendIpi core omits st)
    (E := fun _ => Heralded p sendIpi core omits st) _ (fun _ _ h => h) fun _ _ h => h
  apply (((Enters.markScheduledOn_refused (st.affinity p target) target).withState (P := fun st1 =>
    (st1.cpus core).currentProcess = (st.cpus core).currentProcess)
      ((Touches.currentProcess ((Touches.refl st).markScheduledOn ⟨by simp, by simp, by simp⟩ _) core))).mono (fun _ _ h => h)
        fun _ _ h => quiet h.1).andThen
  rintro _ st1 ⟨hmarked, hsame⟩
  rw [affinity_congr (hmarked.affinity current), hcurrent]
  split_ifs with hremote
  · exact Outcome.post_of_state (P := Heralded p sendIpi core omits st)
      (signalRemote hmarked hremote.1)
  · have hlocal := affinity_of_not_remote hsingle hremote
    have hhere : Enters (fun id => st.affinity p id = core) st st1 := hmarked.mono fun id hid => by
      rwa [hid]
    rw [hlocal]
    refine Outcome.post_of_state (P := Heralded p sendIpi core omits st) (of_enters
      (hhere.trans (.of_touches ((Touches.refl st1).scheduleIfPreemptedBy trivial
        (fun id hid => hhome id ?_) target))) fun _ hid => hid)
    rwa [hsame] at hid

theorem tryDirectScheduleAndSwitchLocal (htarget : st.affinity p target = core) (other : Nat) :
    Heralded p sendIpi core omits st
      (st.tryDirectScheduleAndSwitchLocal p root other target).state := by
  have henters : Enters (· = target) st
      (st.tryDirectScheduleAndSwitchLocal p root other target).state :=
    .of_touches ((Touches.refl st).tryDirectScheduleAndSwitchLocal trivial rfl)
  apply of_enters henters
  rintro id rfl
  exact htarget

theorem tryDirectScheduleAndSwitch {current : ProcessId}
    (hcurrent : st.affinity p current = core) (target : ProcessId) : Heralded p sendIpi core omits st
      (st.tryDirectScheduleAndSwitch p root sendIpi current target).state := by
  unfold ProcState.tryDirectScheduleAndSwitch
  dsimp only
  rw [hcurrent]
  split_ifs with hsame
  · exact tryDirectScheduleAndSwitchLocal hsame core
  · have hsmp : p.smpEnabled = true := by
      by_contra hsingle
      apply hsame
      rw [← hcurrent]
      unfold ProcState.affinity
      rw [if_neg hsingle, if_neg hsingle]
    apply Outcome.Post.state (Q := fun _ => Heralded p sendIpi core omits st)
      (E := fun _ => Heralded p sendIpi core omits st) _ (fun _ _ h => h) fun _ _ h => h
    apply Outcome.Post.andThen (Q := fun _ => Heralded p sendIpi core omits st)
    · apply ((Enters.markScheduledOn_refused (st.affinity p target) target).mono (fun _ _ h => h)
        fun _ _ h => quiet h).andThen
      intro _ st1 hmarked
      exact Outcome.post_of_state (P := Heralded p sendIpi core omits st) (signalRemote hmarked hsmp)
    · intro _ st1 hsignalled
      exact Outcome.post_of_state (P := Heralded p sendIpi core omits st)
        (hsignalled.trans (quiet (.of_touches ((Touches.refl st1).tryScheduleAndSwitch trivial))))

end Heralded

end ProcState

end A9N.Kernel
