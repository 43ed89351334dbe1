import StackSync.Proofs.Reconcile.Retrying
import StackSync.Proofs.Reconcile.Turn
import StackSync.Proofs.Reconcile.Verdict

/-!
# Whether ready lasts

Once a round has said ready and its status is stored, further rounds over the same object, with the
same artifact and a cloud that nobody else touches, should find nothing to do. They do if they find
the executed change set again: `UpToDate` is the state in which a round finds it, and such a round
says ready, changes nothing and leaves the object up to date (`UpToDate.round`). A round that became
ready by removing an empty change set leaves none to be found, so the next one asks for it again.
`ready_stays_iff` says that there is nothing in between.
-/

namespace StackSync

open Program MemoryCloud

/-! ## Finding a change set again -/

namespace MemoryCloud

variable {c : MemoryCloud} {key : StackKey} {recorded : Option String} {name id : String}
  {s : ChangeSetRecord}

theorem changeSet?_eraseChangeSet (c : MemoryCloud) (id : String) :
    (c.eraseChangeSet id).changeSet? id = none := by
  unfold changeSet? eraseChangeSet
  induction c.changeSets with
  | nil => rfl
  | cons e rest ih =>
    by_cases he : e.1 = id
    · rw [List.filter_cons_of_neg (by simpa using he)]
      exact ih
    · rw [List.filter_cons_of_pos (by simpa using he), List.lookup_cons,
        beq_false_of_ne (Ne.symm he)]
      exact ih

theorem find?_of_gone {h : ChangeSetHandle} (hid : h.id = some id)
    (hgone : c.changeSet? id = none) : c.find? key h = none := by
  rw [find?, idOf?, hid]
  simp [hgone]

/-- The record that a round makes of the change set it has found finds it again. -/
theorem Coherent.find?_again (h : Coherent c)
    (hfind : c.find? key (attemptHandle recorded name) = some (id, s)) :
    c.find? key (attemptHandle (some id) name) = some (id, s) := by
  obtain ⟨hmem, hid⟩ := h.mem_of_find? hfind
  obtain ⟨k, -, harn⟩ := h.arn _ hmem
  have hparse := parse_changeSetArn s.region s.name k
  rw [← show id = changeSetArn s.region s.name k from harn] at hparse
  by_cases hname : (ChangeSetHandle.parse id).name = name
  · rw [attemptHandle_of_name_eq hname, hparse]
    exact find?_of_changeSet? (h.changeSet?_eq_some_iff.2 hmem) _ _
  · -- the name cannot be read from the ARN, so the change set was not found by it
    rw [attemptHandle_of_name_ne hname]
    have hnamed : attemptHandle recorded name = .named name := by
      rcases attemptHandle_eq recorded name with hnamed | ⟨r, -, hr, hhandle⟩
      · exact hnamed
      · rw [hhandle] at hid
        rcases hid with hsome | ⟨hnone, -, -⟩
        · have hread := ChangeSetHandle.name_of_parse_id hsome
          rw [hr] at hread
          rw [hparse] at hname
          exact absurd hread.symm hname
        · rw [hhandle, ← hr]
          exact congrArg (ChangeSetHandle.mk _) hnone
    rw [← hnamed]
    exact hfind

/-- Where ARNs can be read, what is recorded of a change set is its ARN. -/
theorem Coherent.id_attemptHandle_of_find? (h : Coherent c) (hlegible : Legible key.1)
    {generation : Int64} {revision : String}
    (hfind : c.find? key (attemptHandle recorded (ChangeSetName.of generation revision)) =
      some (id, s)) :
    (attemptHandle (some id) (ChangeSetName.of generation revision)).id = some id := by
  obtain ⟨hmem, hid⟩ := h.mem_of_find? hfind
  obtain ⟨k, -, harn⟩ := h.arn _ hmem
  have hparse := parse_changeSetArn s.region s.name k
  rw [← show id = changeSetArn s.region s.name k from harn] at hparse
  have hname : (ChangeSetHandle.parse id).name = ChangeSetName.of generation revision := by
    rcases hid with hsome | ⟨-, hkey, hs⟩
    · rcases attemptHandle_eq recorded (ChangeSetName.of generation revision) with
        hnamed | ⟨r, -, hr, hhandle⟩
      · rw [hnamed] at hsome
        cases hsome
      · rw [hhandle] at hsome
        rw [hparse, ← hr, ChangeSetHandle.name_of_parse_id hsome]
    · rw [attemptHandle_name] at hs
      have hregion : s.region = key.1 := congrArg Prod.fst (beq_iff_eq.1 hkey)
      have hread := hlegible generation revision k
      rw [← hregion, ← hs, ← harn] at hread
      rw [hparse, ← hs]
      exact hread
  rw [attemptHandle_of_name_eq hname, hparse]

end MemoryCloud

/-! ## Ready against the cloud in memory -/

namespace TargetStack

variable {t : TargetStack} {c c' : MemoryCloud} {es : List Exchange} {reference : String}

theorem move_of_ready (h : t.Pursuit es reference .true) (hr : Replay c es c') :
    ∃ isCreate recovering, StackMove.ofFound ((c.stack? t.key).map
      (stackDescription t.region t.stackName)) = .changeSet isCreate recovering := by
  cases h with
  | changeSet hmove _ =>
    obtain ⟨c₁, -, -, hfound⟩ := replay_stackLookup hr
    rw [hfound _ rfl] at hmove
    exact ⟨_, _, hmove⟩

/-- A round that says ready has found a change set that was executed and has called for nothing, or
it has found an empty one and has removed it. -/
theorem ready_cases (h : t.Pursuit es reference .true) (hr : Replay c es c') :
    ∃ s, c.find? t.key t.changeSet = some (reference, s) ∧
      ((phaseOf (reference, s) = .success ∧ SameStore c c' ∧ CallSort.change ∉ sorts es) ∨
        (phaseOf (reference, s) = .empty ∧ SameStore (c.eraseChangeSet reference) c' ∧
          CallSort.change ∈ sorts es)) := by
  obtain ⟨isCreate, hverified⟩ := verified_of_pursuit h
  have hfound : ∀ {found : Option StackDescription} {d : ChangeSetDescription} {rest},
      Replay c (t.stackLookup (.ok found) :: t.changeSetLookup (.ok (some d)) :: rest) c' →
      ∃ id s, c.find? t.key t.changeSet = some (id, s) ∧ d = description (id, s) := by
    intro found d rest hr
    obtain ⟨c₁, hs, hrest, -⟩ := replay_stackLookup hr
    obtain ⟨c₂, -, -, hlooked⟩ := replay_changeSetLookup hrest
    obtain ⟨id, s, hfind, hd⟩ := find?_of_found (hlooked _ rfl)
    exact ⟨id, s, (hs.find? _ _).symm.trans hfind, hd⟩
  have heffect := effect_of_pursuit h hr
  have hlooked : CallSort.change ∉ [CallSort.stackLookup, .changeSetLookup] := by simp
  have hcalled : CallSort.change ∈ [CallSort.stackLookup, .changeSetLookup, .change] := by simp
  cases hverified with
  | executed _ hphase =>
    obtain ⟨id, s, hfind, rfl⟩ := hfound hr
    cases heffect with
    | noted _ _ hst _ => exact absurd rfl hst
    | upToDate _ hfind' hphase' hs => exact ⟨_, hfind', .inl ⟨hphase', hs, hlooked⟩⟩
    | dropped _ hfind' hempty _ _ =>
      rw [hfind, Option.some.injEq] at hfind'
      have hboth := hempty rfl
      rw [← hfind'] at hboth
      exact absurd (hphase.symm.trans hboth) (by simp)
  | empty _ hphase =>
    obtain ⟨id, s, hfind, rfl⟩ := hfound hr
    cases heffect with
    | noted _ _ hst _ => exact absurd rfl hst
    | upToDate _ hfind' hphase' _ =>
      rw [hfind, Option.some.injEq] at hfind'
      rw [← hfind'] at hphase'
      exact absurd (hphase.symm.trans hphase') (by simp)
    | dropped _ hfind' hempty _ hs => exact ⟨_, hfind', .inr ⟨hempty rfl, hs, hcalled⟩⟩

end TargetStack

/-! ## Up to date -/

/-- The round has asked for no change. -/
def Visit.Quiet (v : Visit) : Prop := CallSort.change ∉ sorts v.exchanges

/-- A round over the object for the revision finds a stack in a phase it goes on from, and the
change set executed. -/
structure UpToDate (s : OperatorSettings) (revision : String) (m : Manifest) (c : MemoryCloud) :
    Prop where
  coherent : Coherent c
  works : c.Works
  stack : ∃ isCreate recovering,
    StackMove.ofFound ((c.stack? (m.stackKey s)).map
      (stackDescription (m.stackKey s).1 (m.stackKey s).2)) = .changeSet isCreate recovering
  executed : ∃ id r, c.find? (m.stackKey s) (m.handle revision) = some (id, r) ∧
    phaseOf (id, r) = .success

theorem move_of_phase_success {d : ChangeSetDescription} (h : d.phase = .success) :
    d.move = .ready := by
  unfold ChangeSetDescription.move
  rw [h]

namespace UpToDate

variable {s : OperatorSettings} {revision body : String} {m : Manifest} {c c' : MemoryCloud}
  {v : Visit}

theorem of_sameStore (h : UpToDate s revision m c) (hs : SameStore c c') :
    UpToDate s revision m c' where
  coherent := h.coherent.sameStore hs
  works := hs.works h.works
  stack := by
    rw [hs.stack?]
    exact h.stack
  executed := by
    rw [hs.find?]
    exact h.executed

/-- A round over an object that is up to date says so, and keeps it up to date. -/
theorem round (h : UpToDate v.operator.settings revision v.object c)
    (hloaded : v.loaded = some (revision, body)) (hvalid : v.Valid c c') :
    v.outcome.SaysReady ∧ v.Quiet ∧ UpToDate v.operator.settings revision v.after c' := by
  obtain ⟨reference, base, a, st, hpursuit, -, hattempt, hwrites⟩ :=
    Operator.pursued_of_loaded hvalid.ran ((hvalid.loaded _ _).2 hloaded)
  obtain ⟨isCreate, recovering, hstack⟩ := h.stack
  obtain ⟨id, r, hfind, hphase⟩ := h.executed
  have hreplay := hvalid.replay.remote
  obtain ⟨placed, hleads, -⟩ := TargetStack.turn_of_pursuit h.works hpursuit hreplay
  have hturn : (v.operator.targetOf v.object revision body).turn placed c = ⟨id, .true, c⟩ := by
    rw [TargetStack.turn_of_move hstack]
    exact TargetStack.changeSetTurn_of_move hfind (move_of_phase_success hphase)
  rw [hturn] at hleads
  obtain ⟨hreference, hst, hs⟩ := hleads
  obtain rfl : id = reference := hreference
  obtain rfl : ConditionStatus.true = st := hst
  refine ⟨hwrites.saysReady_iff.2 rfl, ?_, ?_⟩
  · obtain ⟨r', hfind', ⟨-, -, hquiet⟩ | ⟨hempty, -, -⟩⟩ := TargetStack.ready_cases hpursuit hreplay
    · rw [Visit.Quiet, ← sorts_remote]
      exact hquiet
    · have hsame : (id, r) = (id, r') := Option.some.inj (hfind.symm.trans hfind')
      rw [← hsame, hphase] at hempty
      cases hempty
  · have hstays : UpToDate v.operator.settings revision v.object c' := h.of_sameStore hs
    have hkey := v.after_stackKey v.operator.settings
    refine ⟨hstays.coherent, hstays.works, hkey ▸ hstays.stack, ?_⟩
    rw [hkey, Visit.handle_after_of_writes hattempt hwrites]
    split
    · exact ⟨id, r, hstays.coherent.find?_again ((hs.find? _ _).trans hfind), hphase⟩
    · exact hstays.executed

end UpToDate

/-! ## Courses at rest -/

/-- From a round on nothing happens but further rounds over the same object, which load the same
template; whether their statuses get stored is left open. -/
def resting (v : Visit) (c : MemoryCloud) : Plan where
  starts m c' := m = v.after ∧ c' = c
  allows w := w.operator.settings = v.operator.settings ∧ w.loaded = v.loaded
  between m c m' c' := m' = m ∧ c' = c

/-- After the round the change set of its revision is there, and has been executed. -/
def Visit.Backed (v : Visit) (c : MemoryCloud) : Prop :=
  ∃ revision body id s, v.loaded = some (revision, body) ∧
    c.find? v.key (v.after.handle revision) = some (id, s) ∧ phaseOf (id, s) = .success

namespace Visit

variable {v w : Visit} {revision body : String} {c c' c'' : MemoryCloud}

/-- What a round that says ready has found and left. -/
theorem Valid.ready_inv (hvalid : v.Valid c c') (hready : v.outcome.SaysReady) :
    ∃ revision body id s, v.loaded = some (revision, body) ∧
      c.find? v.key (v.object.handle revision) = some (id, s) ∧
      (v.written = true → v.after.handle revision =
        attemptHandle (some id) (ChangeSetName.of v.object.generation revision)) ∧
      (∃ isCreate recovering, StackMove.ofFound ((c.stack? v.key).map
        (stackDescription v.key.1 v.key.2)) = .changeSet isCreate recovering) ∧
      ((phaseOf (id, s) = .success ∧ SameStore c c' ∧ v.Quiet) ∨
        (phaseOf (id, s) = .empty ∧ SameStore (c.eraseChangeSet id) c' ∧ ¬ v.Quiet)) := by
  obtain ⟨isCreate, revision, body, hloaded, -⟩ := (Operator.saysReady_iff hvalid.ran).1 hready
  obtain ⟨id, base, a, st, hpursuit, -, hattempt, hwrites⟩ :=
    Operator.pursued_of_loaded hvalid.ran hloaded
  obtain rfl := hwrites.saysReady_iff.1 hready
  have hreplay := hvalid.replay.remote
  obtain ⟨s, hfind, hcases⟩ := TargetStack.ready_cases hpursuit hreplay
  refine ⟨revision, body, id, s, (hvalid.loaded _ _).1 hloaded, hfind, ?_,
    TargetStack.move_of_ready hpursuit hreplay, ?_⟩
  · intro hwritten
    rw [handle_after_of_writes hattempt hwrites, if_pos hwritten]
  · rw [sorts_remote] at hcases
    rcases hcases with ⟨hphase, hs, hquiet⟩ | ⟨hphase, hs, hloud⟩
    · exact .inl ⟨hphase, hs, hquiet⟩
    · exact .inr ⟨hphase, hs, not_not_intro hloud⟩

/-- A round at rest that says ready and asks for nothing has found the change set executed. -/
theorem backed_of_ready (hsame : w.operator.settings = v.operator.settings)
    (hobject : w.object = v.after) (hloaded : w.loaded = v.loaded) (hvalid : w.Valid c' c'')
    (hready : w.outcome.SaysReady) (hquiet : w.Quiet) : v.Backed c' := by
  obtain ⟨revision, body, id, s, hloads, hfind, -, -, hcases⟩ := hvalid.ready_inv hready
  rcases hcases with ⟨hphase, -, -⟩ | ⟨-, -, hloud⟩
  · rw [key, hobject, hsame, after_stackKey] at hfind
    exact ⟨revision, body, id, s, hloaded ▸ hloads, hfind, hphase⟩
  · exact absurd hquiet hloud

/-- A round that says ready and has been stored leaves its object up to date, if there is something
to back it. -/
theorem Valid.upToDate (hvalid : v.Valid c c') (coherent : Coherent c) (works : c.Works)
    (hready : v.outcome.SaysReady) (hbacked : v.Backed c') :
    ∃ revision body, v.loaded = some (revision, body) ∧
      UpToDate v.operator.settings revision v.after c' := by
  obtain ⟨revision, body, id, s, hloaded, hfind, -, hstack, hcases⟩ := hvalid.ready_inv hready
  obtain ⟨revision', body', id', s', hloaded', hfind', hphase'⟩ := hbacked
  rw [hloaded] at hloaded'
  obtain ⟨rfl, rfl⟩ := Prod.mk.inj (Option.some.inj hloaded')
  have hleft : Coherent c' ∧ c'.Works ∧ c'.stack? v.key = c.stack? v.key := by
    rcases hcases with ⟨-, hs, -⟩ | ⟨-, hs, -⟩
    · exact ⟨coherent.sameStore hs, hs.works works, hs.stack? _⟩
    · have herased : Coherent (c.eraseChangeSet id) := coherent.of_sublist List.filter_sublist rfl
      exact ⟨herased.sameStore hs, hs.works works, hs.stack? _⟩
  obtain ⟨hcoherent, hworks, hsame⟩ := hleft
  have hkey : v.after.stackKey v.operator.settings = v.key := v.after_stackKey _
  refine ⟨revision, body, hloaded, hcoherent, hworks, ?_, ?_⟩
  · rw [hkey, hsame]
    exact hstack
  · rw [hkey]
    exact ⟨id', s', hfind', hphase'⟩

theorem backed_of_quiet (hvalid : v.Valid c c') (coherent : Coherent c)
    (hready : v.outcome.SaysReady) (hwritten : v.written = true) (hquiet : v.Quiet) :
    v.Backed c' := by
  obtain ⟨revision, body, id, s, hloaded, hfind, hafter, -, hcases⟩ := hvalid.ready_inv hready
  rcases hcases with ⟨hphase, hs, -⟩ | ⟨-, -, hloud⟩
  · refine ⟨revision, body, id, s, hloaded, ?_, hphase⟩
    rw [hafter hwritten, hs.find?]
    exact coherent.find?_again hfind
  · exact absurd hquiet hloud

/-- Where ARNs can be read, nothing backs a round that has removed the change set. -/
theorem quiet_of_backed (hvalid : v.Valid c c') (coherent : Coherent c)
    (hready : v.outcome.SaysReady) (hwritten : v.written = true) (hlegible : Legible v.key.1)
    (hbacked : v.Backed c') : v.Quiet := by
  obtain ⟨revision, body, id, s, hloaded, hfind, hafter, -, hcases⟩ := hvalid.ready_inv hready
  obtain ⟨revision', body', id', s', hloaded', hfind', -⟩ := hbacked
  rw [hloaded] at hloaded'
  obtain ⟨rfl, rfl⟩ := Prod.mk.inj (Option.some.inj hloaded')
  rcases hcases with ⟨-, -, hquiet⟩ | ⟨-, hs, -⟩
  · exact hquiet
  · have hid := coherent.id_attemptHandle_of_find? hlegible hfind
    have hgone : c'.find? v.key (v.after.handle revision) = none := by
      rw [hafter hwritten, hs.find?]
      exact find?_of_gone hid (changeSet?_eraseChangeSet c id)
    rw [hgone] at hfind'
    cases hfind'

end Visit

/-- The first of the further rounds is over the object as the stored round has left it. -/
theorem first_of_resting {v : Visit} {c' c'' : MemoryCloud} {hist : List Visit} {m : Manifest}
    (course : Course (resting v c') hist m c'') :
    (hist = [] ∧ m = v.after ∧ c'' = c') ∨
      ∃ w ∈ hist, w.object = v.after ∧ (resting v c').allows w ∧ ∃ c₁, w.Valid c' c₁ := by
  refine course.invariant (I := fun hist m c => (hist = [] ∧ m = v.after ∧ c = c') ∨
    ∃ w ∈ hist, w.object = v.after ∧ (resting v c').allows w ∧ ∃ c₁, w.Valid c' c₁) ?_ ?_ ?_
  · rintro m c ⟨rfl, rfl⟩
    exact .inl ⟨rfl, rfl, rfl⟩
  · rintro hist w c c₁ hallowed hvalid (⟨rfl, hobject, rfl⟩ | ⟨first, hfirst, hrest⟩)
    · exact .inr ⟨w, List.mem_cons_self, hobject, hallowed, c₁, hvalid⟩
    · exact .inr ⟨first, List.mem_cons_of_mem _ hfirst, hrest⟩
  · rintro hist m c m' c₁ ⟨rfl, rfl⟩ h
    exact h

theorem upToDate_of_resting {v : Visit} {c' c'' : MemoryCloud} {hist : List Visit} {m : Manifest}
    {revision body : String} (course : Course (resting v c') hist m c'')
    (hloaded : v.loaded = some (revision, body))
    (h : UpToDate v.operator.settings revision v.after c') :
    UpToDate v.operator.settings revision m c'' ∧
      ∀ w ∈ hist, w.outcome.SaysReady ∧ w.Quiet := by
  refine course.invariant (I := fun hist m c => UpToDate v.operator.settings revision m c ∧
      ∀ w ∈ hist, w.outcome.SaysReady ∧ w.Quiet) ?_ ?_ ?_
  · rintro m c ⟨rfl, rfl⟩
    exact ⟨h, by simp⟩
  · rintro hist w c c₁ ⟨hsettings, hloads⟩ hvalid ⟨hup, hready⟩
    rw [← hsettings] at hup ⊢
    obtain ⟨hready', hquiet, hafter⟩ := hup.round (hloads.trans hloaded) hvalid
    refine ⟨hafter, fun w' hw' => ?_⟩
    rcases List.mem_cons.1 hw' with rfl | hw'
    · exact ⟨hready', hquiet⟩
    · exact hready w' hw'
  · rintro hist m c m' c₁ ⟨rfl, rfl⟩ h
    exact h

/-- After a stored round that says ready, however many further rounds there are: they all say ready
and ask for no change exactly if the executed change set is there to be found again. It is if the
round itself has asked for none; if it has removed an empty change set there is nothing to be found,
at least in a region whose ARNs can be read. -/
theorem ready_stays_iff {v : Visit} {c c' c'' : MemoryCloud} {hist : List Visit} {m : Manifest}
    (reachable : Reachable c) (works : c.failures = []) (valid : v.Valid c c')
    (ready : v.outcome.SaysReady) (written : v.written = true)
    (course : Course (resting v c') hist m c'') (further : hist ≠ []) :
    ((∀ w ∈ hist, w.outcome.SaysReady ∧ w.Quiet) ↔ v.Backed c') ∧
      (v.Quiet → v.Backed c') ∧ (Legible v.key.1 → v.Backed c' → v.Quiet) := by
  have coherent := reachable.coherent
  refine ⟨⟨?_, ?_⟩, Visit.backed_of_quiet valid coherent ready written,
    Visit.quiet_of_backed valid coherent ready written⟩
  · intro hstays
    rcases first_of_resting course with ⟨hnil, -, -⟩ | ⟨w, hw, hobject, hallowed, c₁, hvalid⟩
    · exact absurd hnil further
    · obtain ⟨hready, hquiet⟩ := hstays w hw
      exact Visit.backed_of_ready hallowed.1 hobject hallowed.2 hvalid hready hquiet
  · intro hbacked
    obtain ⟨revision, body, hloaded, hup⟩ := valid.upToDate coherent works ready hbacked
    exact (upToDate_of_resting course hloaded hup).2

/-! ## Two ways to be ready

The rounds over the sample deploy its template, and it lasts. Where the stack has the template
already, the change set of the first round is empty, and the second one removes it and says ready;
the third one makes it again. -/

namespace Sample

theorem Stage.Reached.reachable {p : Plan} {x : Stage} (h : x.Reached p)
    (hreachable : Reachable x.world.cloud) (revision : String) (written : Bool) :
    Reachable (x.next revision written).world.cloud := by
  have hvalid : (x.visit revision written).Valid x.world.cloud
      (x.next revision written).world.cloud := h.valid.1
  exact hreachable.replay hvalid.replay

theorem Stage.resting_allows (x y : Stage) (revision : String) (c : MemoryCloud) :
    (resting (x.visit revision true) c).allows (y.visit revision true) := ⟨rfl, rfl⟩

theorem deployed_reachable : Reachable deployed.world.cloud :=
  created_reached.reachable (first_reached.reachable .empty "a" true) "a" true

theorem emptied_reachable : Reachable emptied.world.cloud :=
  unattempted_reached.reachable seeded_reachable "a" true

end Sample

open Sample in
/-- The executed change set of the sample is found by every further round. -/
theorem ready_stays_iff_deployed :
    ((deployed.next "a" true).visit "a" true).outcome.SaysReady ∧
      ((deployed.next "a" true).visit "a" true).Quiet := by
  have hquiet : (deployed.visit "a" true).Quiet := by
    show CallSort.change ∉ sorts (deployed.visit "a" true).exchanges
    decide +kernel
  have hnext : (deployed.next "a" true).Reached alternating :=
    deployed_reached.next (alternating_allows deployed deployed_reached.spec (.inl rfl))
      alternating_between (by decide +kernel)
  have hcourse : Course (resting (deployed.visit "a" true) (deployed.next "a" true).world.cloud)
      [(deployed.next "a" true).visit "a" true] ((deployed.next "a" true).next "a" true).object
      ((deployed.next "a" true).next "a" true).world.cloud :=
    .round (.start ⟨rfl, rfl⟩) (Stage.resting_allows _ _ _ _) hnext.valid.1 ⟨rfl, rfl⟩
  obtain ⟨hstays, hbacked, -⟩ := ready_stays_iff deployed_reachable rfl
    deployed_reached.valid.1 deployed_ready rfl hcourse (List.cons_ne_nil _ _)
  exact hstays.2 (hbacked hquiet) _ List.mem_cons_self

open Sample in
/-- A round that removes an empty change set says ready, and the next one asks for it again. -/
theorem not_always_ready_stays : ¬ ∀ (v : Visit) (c c' c'' : MemoryCloud) (hist : List Visit)
    (m : Manifest), Reachable c → c.failures = [] → v.Valid c c' → v.outcome.SaysReady →
    v.written = true → Course (resting v c') hist m c'' →
    ∀ w ∈ hist, w.outcome.SaysReady ∧ w.Quiet := by
  intro always
  have hready : (emptied.visit "a" true).outcome.SaysReady := exists_ready (by decide +kernel)
  have hcourse : Course (resting (emptied.visit "a" true) dropped.world.cloud)
      [dropped.visit "a" true] (dropped.next "a" true).object
      (dropped.next "a" true).world.cloud :=
    .round (.start ⟨rfl, rfl⟩) (Stage.resting_allows _ _ _ _) dropped_reached.valid.1 ⟨rfl, rfl⟩
  have hloud : CallSort.change ∈ sorts (dropped.visit "a" true).exchanges := by decide +kernel
  obtain ⟨-, hquiet⟩ := always _ _ _ _ _ _ emptied_reachable rfl
    emptied_reached.valid.1 hready rfl hcourse _ List.mem_cons_self
  exact hquiet hloud

end StackSync
