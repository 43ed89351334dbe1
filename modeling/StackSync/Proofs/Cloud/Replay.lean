import StackSync.Proofs.Cloud.Store
import StackSync.Proofs.Reconcile.Conversation
import StackSync.Simulation.World

/-!
# Conversations that the cloud in memory answers

`Replay` says that the remote exchanges of a conversation are the ones the cloud in memory would
have had, and what it is afterwards; everybody else may answer as they like. Every run against the
world for rehearsals is one (`replay_of_run`), so what is proved of replays holds of those runs. What
an answer can do to the cloud is said once, by `Edits`.

Along replays, and under everything a rehearsal may seed, the change sets keep ARNs of their own. A
round can rely on that: what it finds under an ARN is what was made under it, and a new change set
is under no ARN yet.
-/

namespace StackSync

open Program

namespace MemoryCloud

/-- The cloud gives this answer to the request, and is `c'` then. -/
def Answers (c : MemoryCloud) : (r : Request) → r.Answer → MemoryCloud → Prop
  | .describeStack region name, answer, c' => describeStack region name c = (answer, c')
  | .createStack r, answer, c' => createStack r c = (answer, c')
  | .updateStack r, answer, c' => updateStack r c = (answer, c')
  | .deleteStack region name, answer, c' => deleteStack region name c = (answer, c')
  | .continueRollback region name, answer, c' => continueUpdateRollback region name c = (answer, c')
  | .describeChangeSet region name h, answer, c' => describeChangeSet region name h c = (answer, c')
  | .executeChangeSet region name h, answer, c' => executeChangeSet region name h c = (answer, c')
  | .deleteChangeSet region name h, answer, c' => deleteChangeSet region name h c = (answer, c')
  | .uploadTemplate bucket region key _, answer, c' =>
    c' = c ∧ ∀ url, answer = .ok url → url = objectUrl bucket region key
  | .findStack .., _, c' | .findArtifact .., _, c' | .download _, _, c' | .emit _, _, c' => c' = c

/-- What a request can come to, apart from the log: nothing, or the one edit that it asks for. -/
inductive Edits (c : MemoryCloud) : Request → MemoryCloud → Prop where
  | nothing (r : Request) : Edits c r c
  | create (r : ChangeSetRequest) : Edits c (.createStack r)
      ((c.putRecord (r.region, r.stackName) reservedStack).addChangeSet (recordOf r true)).2
  | update (r : ChangeSetRequest) (s : StackRecord) : Edits c (.updateStack r)
      (c.addChangeSet (updateRecord r s)).2
  | erase (region name : String) : Edits c (.deleteStack region name) (c.eraseStack (region, name))
  | resume (region name : String) (s : StackRecord) : Edits c (.continueRollback region name)
      (c.putRecord (region, name) (rolledBack s))
  | execute {region name id : String} {h : ChangeSetHandle} {s : ChangeSetRecord} :
      c.find? (region, name) h = some (id, s) →
      Edits c (.executeChangeSet region name h) (c.execute (region, name) id s)
  | drop {region name id : String} {h : ChangeSetHandle} : c.idOf? (region, name) h = some id →
      Edits c (.deleteChangeSet region name h) (c.eraseChangeSet id)

/-- Whatever is answered, the cloud is the edited one afterwards. -/
theorem Answers.edits {c c' : MemoryCloud} {r : Request} {answer : r.Answer}
    (h : c.Answers r answer c') : ∃ edited, c.Edits r edited ∧ SameStore edited c' := by
  cases r with
  | findStack => cases h; exact ⟨c, .nothing _, .refl c⟩
  | findArtifact => cases h; exact ⟨c, .nothing _, .refl c⟩
  | download => cases h; exact ⟨c, .nothing _, .refl c⟩
  | emit => cases h; exact ⟨c, .nothing _, .refl c⟩
  | uploadTemplate =>
    obtain ⟨rfl, -⟩ := h
    exact ⟨c', .nothing _, .refl c'⟩
  | describeStack => exact ⟨c, .nothing _, (describeStack_law h).1⟩
  | describeChangeSet => exact ⟨c, .nothing _, (describeChangeSet_law h).1⟩
  | createStack r =>
    rcases createStack_law h with ⟨_, -, -, hs⟩ | ⟨-, -, -, hs⟩ | ⟨-, -, -, hs⟩
    · exact ⟨c, .nothing _, hs⟩
    · exact ⟨c, .nothing _, hs⟩
    · exact ⟨_, .create r, hs⟩
  | updateStack r =>
    rcases updateStack_law h with
      ⟨_, -, -, hs⟩ | ⟨-, -, -, hs⟩ | ⟨-, -, -, -, hs⟩ | ⟨s, -, -, -, -, hs⟩
    · exact ⟨c, .nothing _, hs⟩
    · exact ⟨c, .nothing _, hs⟩
    · exact ⟨c, .nothing _, hs⟩
    · exact ⟨_, .update r s, hs⟩
  | deleteStack region name =>
    rcases deleteStack_law h with ⟨-, hs⟩ | ⟨-, hs⟩
    · exact ⟨c, .nothing _, hs⟩
    · exact ⟨_, .erase region name, hs⟩
  | continueRollback region name =>
    rcases continueUpdateRollback_law h with ⟨-, hs⟩ | ⟨s, -, -, hs⟩
    · exact ⟨c, .nothing _, hs⟩
    · exact ⟨_, .resume region name s, hs⟩
  | executeChangeSet region name handle =>
    rcases executeChangeSet_law h with ⟨-, hs⟩ | ⟨id, s, hfind, -, -, hs⟩
    · exact ⟨c, .nothing _, hs⟩
    · exact ⟨_, .execute hfind, hs⟩
  | deleteChangeSet region name handle =>
    rcases deleteChangeSet_law h with ⟨-, hs⟩ | ⟨-, ⟨-, hs⟩ | ⟨id, hid, hs⟩⟩
    · exact ⟨c, .nothing _, hs⟩
    · exact ⟨c, .nothing _, hs⟩
    · exact ⟨_, .drop hid, hs⟩

/-- The exchanges one after another, from one cloud to another. -/
inductive Replay : MemoryCloud → List Exchange → MemoryCloud → Prop where
  | nil (c : MemoryCloud) : Replay c [] c
  | cons {c c' c'' : MemoryCloud} {e : Exchange} {es : List Exchange} :
      c.Answers e.request e.answer c' → Replay c' es c'' → Replay c (e :: es) c''

theorem replay_nil_iff {c c' : MemoryCloud} : Replay c [] c' ↔ c' = c := by
  constructor
  · intro h
    cases h
    rfl
  · rintro rfl
    exact .nil _

theorem replay_cons_iff {c c'' : MemoryCloud} {e : Exchange} {es : List Exchange} :
    Replay c (e :: es) c'' ↔ ∃ c', c.Answers e.request e.answer c' ∧ Replay c' es c'' := by
  constructor
  · intro h
    cases h with
    | cons hanswer hrest => exact ⟨_, hanswer, hrest⟩
  · rintro ⟨c', hanswer, hrest⟩
    exact .cons hanswer hrest

theorem replay_append_iff {c c'' : MemoryCloud} {es more : List Exchange} :
    Replay c (es ++ more) c'' ↔ ∃ c', Replay c es c' ∧ Replay c' more c'' := by
  induction es generalizing c with
  | nil => simp [replay_nil_iff]
  | cons e rest ih =>
    rw [List.cons_append, replay_cons_iff]
    constructor
    · rintro ⟨c₁, hanswer, hrest⟩
      obtain ⟨c', hfirst, hmore⟩ := ih.1 hrest
      exact ⟨c', .cons hanswer hfirst, hmore⟩
    · rintro ⟨c', hfirst, hmore⟩
      obtain ⟨c₁, hanswer, hrest⟩ := replay_cons_iff.1 hfirst
      exact ⟨c₁, hanswer, ih.2 ⟨c', hrest, hmore⟩⟩

theorem Replay.remote {c c' : MemoryCloud} {es : List Exchange} (h : Replay c es c') :
    Replay c (remote es) c' := by
  induction h with
  | nil c => exact .nil c
  | @cons c c' c'' e es hanswer _ ih =>
    cases hremote : e.request.isRemote with
    | true =>
      rw [remote_cons_of_isRemote hremote]
      exact .cons hanswer ih
    | false =>
      rw [remote_cons_of_not_isRemote hremote]
      have hsame : c' = c := by
        obtain ⟨request, answer⟩ := e
        cases request <;> first | exact hanswer | cases hremote
      rw [hsame] at ih
      exact ih

theorem replay_of_remote_eq_nil {c : MemoryCloud} {es : List Exchange} (h : remote es = []) :
    Replay c es c := by
  induction es with
  | nil => exact .nil c
  | cons e rest ih =>
    cases hremote : e.request.isRemote with
    | true =>
      rw [remote_cons_of_isRemote hremote] at h
      cases h
    | false =>
      rw [remote_cons_of_not_isRemote hremote] at h
      refine .cons ?_ (ih h)
      obtain ⟨request, answer⟩ := e
      cases request <;> first | rfl | cases hremote

/-! ## Rehearsals are replays -/

theorem answers_of_answer (r : Request) (w : World) (h : w.overrides = .none) :
    w.cloud.Answers r (World.answer r w).1 (World.answer r w).2.cloud ∧
      (World.answer r w).2.overrides = .none := by
  have happly : ∀ {α : Type} (result : CloudAnswer α), Overrides.apply result
      [] = (result, []) := by
    intro α result
    cases result <;> rfl
  cases r with
  | findStack => exact ⟨rfl, h⟩
  | findArtifact => exact ⟨rfl, h⟩
  | download => exact ⟨rfl, h⟩
  | emit => exact ⟨rfl, h⟩
  | deleteStack => exact ⟨rfl, h⟩
  | continueRollback => exact ⟨rfl, h⟩
  | executeChangeSet => exact ⟨rfl, h⟩
  | deleteChangeSet => exact ⟨rfl, h⟩
  | describeStack region name =>
    have hqueue : w.overrides.describeStack = [] := by rw [h]; rfl
    simp only [World.answer, World.describeStack, World.onCloud, hqueue, happly, Answers]
    exact ⟨rfl, by rw [h]; rfl⟩
  | createStack r =>
    have hqueue : w.overrides.createStack = [] := by rw [h]; rfl
    simp only [World.answer, World.createStack, World.onCloud, hqueue, happly, Answers]
    exact ⟨rfl, by rw [h]; rfl⟩
  | updateStack r =>
    have hqueue : w.overrides.updateStack = [] := by rw [h]; rfl
    simp only [World.answer, World.updateStack, World.onCloud, hqueue, happly, Answers]
    exact ⟨rfl, by rw [h]; rfl⟩
  | describeChangeSet region name handle =>
    have hqueue : w.overrides.describeChangeSet = [] := by rw [h]; rfl
    simp only [World.answer, World.describeChangeSet, World.onCloud, hqueue, happly, Answers]
    exact ⟨rfl, by rw [h]; rfl⟩
  | uploadTemplate bucket region key body =>
    refine ⟨⟨rfl, ?_⟩, h⟩
    intro url hurl
    simp only [World.answer, World.uploadTemplate, MemoryTemplates.upload] at hurl
    split at hurl
    · cases hurl
    · exact (Except.ok.inj hurl).symm

/-- A conversation with the world for rehearsals is a replay of its cloud, if no answer is
overridden. -/
theorem replay_of_run {α : Type} (p : Program α) (w : World) (h : w.overrides = .none) :
    Replay w.cloud (exchanges World.answer p w) (run World.answer p w).2.cloud ∧
      (run World.answer p w).2.overrides = .none := by
  induction p generalizing w with
  | done a => exact ⟨.nil _, h⟩
  | ask r next ih =>
    obtain ⟨hanswers, hoverrides⟩ := answers_of_answer r w h
    obtain ⟨hrest, hlast⟩ := ih (World.answer r w).1 (World.answer r w).2 hoverrides
    exact ⟨.cons hanswers hrest, hlast⟩

/-! ## ARNs of one's own -/

/-- Every change set is under an ARN made for it, and there are no two under the same. -/
structure Coherent (c : MemoryCloud) : Prop where
  nodup : (c.changeSets.map (·.1)).Nodup
  arn : ∀ e ∈ c.changeSets, ∃ k ≤ c.issued, e.1 = changeSetArn e.2.region e.2.name k

theorem lookup_eq_some_iff_mem {β : Type} {l : List (String × β)} (h : (l.map (·.1)).Nodup)
    {id : String} {b : β} : l.lookup id = some b ↔ (id, b) ∈ l := by
  induction l with
  | nil => simp
  | cons e rest ih =>
    obtain ⟨i, x⟩ := e
    rw [List.map_cons, List.nodup_cons] at h
    by_cases hid : id = i
    · subst hid
      rw [List.lookup_cons_self, Option.some.injEq, List.mem_cons, Prod.mk.injEq]
      constructor
      · rintro rfl
        exact .inl ⟨rfl, rfl⟩
      · rintro (⟨-, rfl⟩ | hmem)
        · rfl
        · exact absurd (List.mem_map.2 ⟨_, hmem, rfl⟩) h.1
    · have hne : (id == i) = false := beq_false_of_ne hid
      rw [List.lookup_cons, hne, ih h.2, List.mem_cons, Prod.mk.injEq]
      simp [hid]

namespace Coherent

variable {c c' : MemoryCloud}

theorem changeSet?_eq_some_iff (h : Coherent c) {id : String} {s : ChangeSetRecord} :
    c.changeSet? id = some s ↔ (id, s) ∈ c.changeSets :=
  lookup_eq_some_iff_mem h.nodup

theorem fresh (h : Coherent c) (region name : String) :
    ∀ e ∈ c.changeSets, e.1 ≠ changeSetArn region name (c.issued + 1) := by
  intro e he heq
  obtain ⟨k, hk, harn⟩ := h.arn e he
  rw [harn] at heq
  have hindex := index_eq_of_changeSetArn_eq heq
  omega

theorem mem_of_find? (h : Coherent c) {key : StackKey} {handle : ChangeSetHandle} {id : String}
    {s : ChangeSetRecord} (hfind : c.find? key handle = some (id, s)) :
    (id, s) ∈ c.changeSets ∧
      (handle.id = some id ∨ (handle.id = none ∧ s.belongsTo key = true ∧
        s.name = handle.name)) := by
  obtain ⟨i, hid, hmap⟩ := Option.bind_eq_some_iff.1 hfind
  obtain ⟨x, hx, heq⟩ := Option.map_eq_some_iff.1 hmap
  obtain ⟨rfl, rfl⟩ := Prod.mk.inj heq
  refine ⟨h.changeSet?_eq_some_iff.1 hx, ?_⟩
  unfold idOf? at hid
  split at hid
  · next j hj =>
    split at hid
    · exact .inl (hj.trans hid)
    · cases hid
  · next hnone =>
    obtain ⟨e, hfirst, he⟩ := Option.map_eq_some_iff.1 hid
    have hmem := h.changeSet?_eq_some_iff.2 (List.mem_of_find?_eq_some hfirst)
    rw [he, hx] at hmem
    have hsel := List.find?_some hfirst
    rw [Bool.and_eq_true, beq_iff_eq, ← Option.some.inj hmem] at hsel
    exact .inr ⟨hnone, hsel⟩

/-- A handle that finds nothing has an ARN that is gone, or a name that the stack has no change set
of. -/
theorem of_find?_eq_none (h : Coherent c) {key : StackKey} {handle : ChangeSetHandle}
    (hfind : c.find? key handle = none) :
    (∀ id, handle.id = some id → c.changeSet? id = none) ∧
    (handle.id = none → ¬ c.Taken key handle.name) := by
  constructor
  · intro id hid
    cases hs : c.changeSet? id with
    | none => rfl
    | some s =>
      have hfound := find?_of_changeSet? hs key handle.name
      rw [show (⟨handle.name, some id⟩ : ChangeSetHandle) = handle by rw [← hid], hfind] at hfound
      cases hfound
  · rintro hid ⟨e, he, hkey, hname⟩
    have hsome :
        (c.changeSets.find? fun e => e.2.belongsTo key && e.2.name == handle.name).isSome = true :=
      List.find?_isSome.2 ⟨e, he, by simp [hkey, hname]⟩
    obtain ⟨e', hfirst⟩ := Option.isSome_iff_exists.1 hsome
    have hof : c.idOf? key handle = some e'.1 := by
      rw [idOf?, hid]
      exact congrArg (Option.map Prod.fst) hfirst
    have hmem := h.changeSet?_eq_some_iff.2 (List.mem_of_find?_eq_some hfirst)
    rw [find?, hof, Option.bind_some, hmem] at hfind
    cases hfind

/-! What keeps a cloud coherent: leaving its change sets alone, taking some away, adding one under
the next ARN, and changing what is under an ARN but region and name. -/

theorem of_changeSets_eq (h : Coherent c) (hsets : c'.changeSets = c.changeSets)
    (hissued : c'.issued = c.issued) :
    Coherent c' := by
  constructor
  · rw [hsets]
    exact h.nodup
  · rw [hsets, hissued]
    exact h.arn

theorem sameStore (h : Coherent c) (hs : SameStore c c') : Coherent c' :=
  h.of_changeSets_eq hs.changeSets hs.issued

theorem of_sublist (h : Coherent c) (hsets : c'.changeSets.Sublist c.changeSets)
    (hissued : c'.issued = c.issued) :
    Coherent c' := by
  constructor
  · exact h.nodup.sublist (hsets.map _)
  · intro e he
    rw [hissued]
    exact h.arn e (hsets.subset he)

theorem addChangeSet (h : Coherent c) (s : ChangeSetRecord) : Coherent (c.addChangeSet s).2 := by
  constructor
  · show ((c.changeSets ++ [(changeSetArn s.region s.name (c.issued + 1), s)]).map (·.1)).Nodup
    rw [List.map_append, List.nodup_append]
    refine ⟨h.nodup, by simp, ?_⟩
    intro id hid id' hid' heq
    obtain ⟨e, he, rfl⟩ := List.mem_map.1 hid
    have hnew : id' = changeSetArn s.region s.name (c.issued + 1) := by simpa using hid'
    exact h.fresh s.region s.name e he (heq.trans hnew)
  · intro e he
    show ∃ k ≤ c.issued + 1, _
    rcases List.mem_append.1 he with he | he
    · obtain ⟨k, hk, harn⟩ := h.arn e he
      exact ⟨k, Nat.le_succ_of_le hk, harn⟩
    · obtain rfl := List.mem_singleton.1 he
      exact ⟨c.issued + 1, Nat.le_refl _, rfl⟩

theorem updateChangeSet (h : Coherent c) (id : String) {f : ChangeSetRecord → ChangeSetRecord}
    (hregion : ∀ s, (f s).region = s.region) (hname : ∀ s, (f s).name = s.name) :
    Coherent (c.updateChangeSet id f) := by
  have hids : (c.updateChangeSet id f).changeSets.map (·.1) = c.changeSets.map (·.1) := by
    simp only [MemoryCloud.updateChangeSet, List.map_map]
    refine List.map_congr_left fun e _ => ?_
    simp only [Function.comp]
    split <;> rfl
  constructor
  · rw [hids]
    exact h.nodup
  · intro e he
    obtain ⟨s, hmem, hrecord⟩ := exists_of_mem_updateChangeSet he
    obtain ⟨k, hk, harn⟩ := h.arn _ hmem
    refine ⟨k, hk, ?_⟩
    rw [hrecord]
    split
    · rw [hregion, hname]
      exact harn
    · exact harn

theorem execute (h : Coherent c) (key : StackKey) (id : String) (s : ChangeSetRecord) :
    Coherent (c.execute key id s) := by
  have hupdate : Coherent (c.updateChangeSet id executedRecord) :=
    h.updateChangeSet id (fun _ => rfl) (fun _ => rfl)
  exact hupdate.of_changeSets_eq (changeSets_execute c key id s) (issued_execute c key id s)

theorem edits (h : Coherent c) {r : Request} (hedits : c.Edits r c') : Coherent c' := by
  cases hedits with
  | nothing => exact h
  | create r =>
    have hput : Coherent (c.putRecord (r.region, r.stackName) reservedStack) :=
      h.of_changeSets_eq rfl rfl
    exact hput.addChangeSet _
  | update => exact h.addChangeSet _
  | erase => exact h.of_sublist List.filter_sublist rfl
  | resume => exact h.of_changeSets_eq rfl rfl
  | execute => exact h.execute _ _ _
  | drop => exact h.of_sublist List.filter_sublist rfl

/-- Whatever the cloud answers, its change sets keep ARNs of their own. -/
theorem answers (h : Coherent c) {r : Request} {answer : r.Answer}
    (hanswer : c.Answers r answer c') :
    Coherent c' := by
  obtain ⟨edited, hedits, hs⟩ := hanswer.edits
  exact (h.edits hedits).sameStore hs

end Coherent

/-- The clouds that come about by answering, seeding and breaking operations. -/
inductive Reachable : MemoryCloud → Prop where
  | empty : Reachable .empty
  | answered {c c' : MemoryCloud} {r : Request} {answer : r.Answer} :
      Reachable c → c.Answers r answer c' → Reachable c'
  | seedStack {c : MemoryCloud} (key : StackKey) (status : String) (reason : Option String) :
      Reachable c → Reachable (c.seedStack key status reason)
  | seedTemplate {c : MemoryCloud} (key : StackKey) (template : TemplateSource) :
      Reachable c → Reachable (c.seedTemplate key template)
  | seedChangeSet {c : MemoryCloud} (key : StackKey) (name status : String)
      (executionStatus reason : Option String) :
      Reachable c → Reachable (c.seedChangeSet key name status executionStatus reason).2
  | setStatus {c : MemoryCloud} (key : StackKey) (h : ChangeSetHandle) (status : String)
      (executionStatus reason : Option String) :
      Reachable c → Reachable (c.setStatus key h status executionStatus reason)
  | breakOperation {c : MemoryCloud} (op : CloudOperation) (detail : String) :
      Reachable c → Reachable (c.breakOperation op detail)
  | heal {c : MemoryCloud} : Reachable c → Reachable c.heal

theorem Reachable.replay {c c' : MemoryCloud} {es : List Exchange} (h : Reachable c)
    (hr : Replay c es c') : Reachable c' := by
  induction hr with
  | nil c => exact h
  | cons hanswer _ ih => exact ih (.answered h hanswer)

theorem Reachable.coherent {c : MemoryCloud} (h : Reachable c) : Coherent c := by
  induction h with
  | empty => exact ⟨List.nodup_nil, by intro e he; cases he⟩
  | answered _ hanswer ih => exact ih.answers hanswer
  | seedStack _ _ _ _ ih => exact ih.of_changeSets_eq rfl rfl
  | @seedTemplate c key template _ ih =>
    unfold MemoryCloud.seedTemplate
    split
    · exact ih
    · exact ih.of_changeSets_eq rfl rfl
  | seedChangeSet _ _ _ _ _ _ ih => exact ih.addChangeSet _
  | @setStatus c key handle status executionStatus reason _ ih =>
    unfold MemoryCloud.setStatus
    split
    · exact ih
    · exact ih.updateChangeSet _ (fun _ => rfl) (fun _ => rfl)
  | breakOperation _ _ _ ih => exact ih.of_changeSets_eq rfl rfl
  | heal _ ih => exact ih.of_changeSets_eq rfl rfl

end MemoryCloud

end StackSync
