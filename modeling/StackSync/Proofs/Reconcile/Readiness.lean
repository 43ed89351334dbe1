import StackSync.Proofs.Reconcile.Rounds

/-!
# What a stack has when its object is ready

A round calls a stack ready because of the change set of its revision: that one has been executed,
or was empty. Neither says that it was the last to be executed. In the courses of this module the
source publishes revisions in any order, each always with the same template, and the object is
edited with a new generation. `Faithful` ties the cloud to the visits so far: what a stack has is
what the latest execution deployed, and the change sets of the present generation carry the
templates of their revisions.

The main theorem says when a round is right to call the stack ready: exactly if the latest
deployment was the one of this round. That is so if no round of this generation has gone on to
another revision and come back.
-/

namespace StackSync

open Program MemoryCloud

/-! ## Histories -/

/-- What was executed last on a stack, if it has not been cleared since. -/
def latestDeployment (key : StackKey) : List Visit → Option TemplateSource
  | [] => none
  | v :: rest =>
    match v.change? with
    | some (.executed k) => if k = key then v.source else latestDeployment key rest
    | some (.cleared k) => if k = key then none else latestDeployment key rest
    | _ => latestDeployment key rest

/-- A visit has tried another revision at the generation after one had tried this. -/
def Interrupted (generation : Int64) (revision : String) (hist : List Visit) : Prop :=
  ∃ later earlier revision', [later, earlier].Sublist hist ∧ earlier.Tried generation revision ∧
    later.Tried generation revision' ∧ revision' ≠ revision

theorem Interrupted.cons {generation : Int64} {revision : String} {hist : List Visit}
    (h : Interrupted generation revision hist) (v : Visit) :
    Interrupted generation revision (v :: hist) := by
  obtain ⟨later, earlier, revision', hsub, htried, hother, hne⟩ := h
  exact ⟨later, earlier, revision', hsub.cons v, htried, hother, hne⟩

theorem interrupted_of_tried {generation : Int64} {revision revision' : String} {hist : List Visit}
    {v w : Visit}
    (hw : w ∈ hist) (htried : w.Tried generation revision) (hother : v.Tried generation revision')
    (hne : revision' ≠ revision) : Interrupted generation revision (v :: hist) :=
  ⟨v, w, revision', (List.singleton_sublist.2 hw).cons_cons v, htried, hother, hne⟩

section

variable {v : Visit} {key k : StackKey} {hist : List Visit}

theorem latestDeployment_executed (h : v.change? = some (.executed key)) :
    latestDeployment k (v :: hist) = if key = k then v.source else latestDeployment k hist := by
  rw [latestDeployment, h]

theorem latestDeployment_cleared (h : v.change? = some (.cleared key)) :
    latestDeployment k (v :: hist) = if key = k then none else latestDeployment k hist := by
  rw [latestDeployment, h]

theorem latestDeployment_cons (h : v.change? = none ∨ v.change? = some .made) :
    latestDeployment k (v :: hist) = latestDeployment k hist := by
  rcases h with h | h
  · rw [latestDeployment, h]
  · rw [latestDeployment, h]

end

/-! ## The plan -/

/-- Nothing is there at the start. Every revision that gets published has one template to a path,
the object keeps its name, and when its spec is edited its generation grows. Its status may be
anything at any time. -/
def publishing (s : OperatorSettings) (published : String → Prop)
    (template : String → String → String) : Plan where
  starts _ c := c.records = [] ∧ c.changeSets = []
  allows v := v.operator.settings = s ∧ Legible v.key.1 ∧
    ∀ revision body, v.loaded = some (revision, body) →
      published revision ∧ body = template v.object.spec.templatePath revision
  between m c m' c' :=
    ((m'.name = m.name ∧ m'.ns = m.ns ∧ m'.spec = m.spec ∧ m'.generation = m.generation) ∨
      m.generation < m'.generation) ∧
    c'.records = c.records ∧ c'.changeSets = c.changeSets ∧ c'.issued = c.issued

/-! ## The invariant -/

/-- What a stack has is what was deployed last, and the change sets of the generation carry the
sources of their revisions, which have been tried; one that is done with holds the latest
deployment, unless its revision has been interrupted. -/
structure Faithful (published : String → Prop) (generation : Int64) (key : StackKey)
    (source : String → TemplateSource) (hist : List Visit) (c : MemoryCloud) : Prop where
  coherent : Coherent c
  named : ∀ e ∈ c.changeSets, Legible e.2.region ∧
    ∃ g revision, g ≤ generation ∧ e.2.name = ChangeSetName.of g revision
  founded : ∀ e ∈ c.changeSets, (c.stack? (e.2.region, e.2.stack)).isSome = true
  bare : ∀ k s, c.stack? k = some s → StackRecord.phase s = .notCreated → s.template = none
  latest : ∀ k, (c.stack? k).bind (·.template) = latestDeployment k hist
  current : ∀ e ∈ c.changeSets, ∀ revision, published revision →
    e.2.name = ChangeSetName.of generation revision →
    e.2.belongsTo key = true ∧ e.2.template = some (source revision) ∧
    ∃ v ∈ hist, v.Tried generation revision
  sound : ∀ e ∈ c.changeSets, ∀ revision, published revision →
    e.2.name = ChangeSetName.of generation revision →
    phaseOf e = .success ∨ phaseOf e = .empty → ¬ Interrupted generation revision hist →
    latestDeployment key hist = some (source revision)

namespace Faithful

variable {published : String → Prop} {generation : Int64} {key : StackKey}
  {source : String → TemplateSource} {hist : List Visit} {c c' : MemoryCloud}

theorem empty (hrecords : c.records = []) (hsets : c.changeSets = []) :
    Faithful published generation key source [] c := by
  have hstack := records_eq_nil_iff.1 hrecords
  have hnot : ∀ e, e ∉ c.changeSets := by
    intro e
    rw [hsets]
    exact List.not_mem_nil
  refine ⟨⟨?_, ?_⟩, ?_, ?_, ?_, ?_, ?_, ?_⟩
  · rw [hsets]
    exact List.nodup_nil
  · exact fun e he => absurd he (hnot e)
  · exact fun e he => absurd he (hnot e)
  · exact fun e he => absurd he (hnot e)
  · intro k s hs
    rw [hstack] at hs
    cases hs
  · intro k
    rw [hstack]
    rfl
  · exact fun e he => absurd he (hnot e)
  · exact fun e he => absurd he (hnot e)

/-! ## What changes nothing that matters -/

theorem of_eq (h : Faithful published generation key source hist c)
    (hrecords : c'.records = c.records)
    (hsets : c'.changeSets = c.changeSets) (hissued : c'.issued = c.issued) :
    Faithful published generation key source hist c' := by
  have hstack := stack?_congr hrecords
  refine ⟨h.coherent.of_changeSets_eq hsets hissued, ?_,
    Founded.of_sublist h.founded hrecords (hsets ▸ List.Sublist.refl _), ?_, ?_, ?_, ?_⟩
  · rw [hsets]
    exact h.named
  · intro k s hs
    rw [hstack] at hs
    exact h.bare k s hs
  · intro k
    rw [hstack]
    exact h.latest k
  · rw [hsets]
    exact h.current
  · rw [hsets]
    exact h.sound

theorem sameStore (h : Faithful published generation key source hist c) (hs : SameStore c c') :
    Faithful published generation key source hist c' :=
  h.of_eq hs.records hs.changeSets hs.issued

theorem later (h : Faithful published generation key source hist c) {v : Visit}
    (hv : v.change? = none ∨ v.change? = some .made) :
    Faithful published generation key source (v :: hist) c := by
  refine ⟨h.coherent, h.named, h.founded, h.bare, ?_, ?_, ?_⟩
  · intro k
    rw [latestDeployment_cons hv]
    exact h.latest k
  · intro e he revision hpublished hname
    obtain ⟨hkey, htemplate, w, hw, htried⟩ := h.current e he revision hpublished hname
    exact ⟨hkey, htemplate, w, List.mem_cons_of_mem v hw, htried⟩
  · intro e he revision hpublished hname hdone hnot
    rw [latestDeployment_cons hv]
    exact h.sound e he revision hpublished hname hdone fun hinterrupted =>
        hnot (hinterrupted.cons v)

theorem edited (h : Faithful published generation key source hist c) {generation' : Int64}
    {key' : StackKey} {source' : String → TemplateSource} (hlt : generation < generation') :
    Faithful published generation' key' source' hist c := by
  have hnew : ∀ e ∈ c.changeSets, ∀ revision, e.2.name ≠ ChangeSetName.of generation' revision := by
    intro e he revision hname
    obtain ⟨-, g, r, hle, hname'⟩ := h.named e he
    have hg := ChangeSetName.generation_eq_of_of_eq (hname'.symm.trans hname)
    rw [hg, Int64.le_iff_toInt_le] at hle
    rw [Int64.lt_iff_toInt_lt] at hlt
    omega
  refine ⟨h.coherent, ?_, h.founded, h.bare, h.latest, ?_, ?_⟩
  · intro e he
    obtain ⟨hlegible, g, r, hle, hname⟩ := h.named e he
    refine ⟨hlegible, g, r, ?_, hname⟩
    rw [Int64.le_iff_toInt_le] at hle ⊢
    rw [Int64.lt_iff_toInt_lt] at hlt
    omega
  · exact fun e he revision _ hname => absurd hname (hnew e he revision)
  · exact fun e he revision _ hname => absurd hname (hnew e he revision)

/-! ## What a round finds -/

/-- What a round finds under its handle is the change set of its name, whether by name or by ARN. -/
theorem name_of_find? (h : Faithful published generation key source hist c) {m : Manifest}
    {revision : String}
    (hgeneration : m.generation = generation) {k : StackKey} {id : String} {r : ChangeSetRecord}
    (hfind : c.find? k (m.handle revision) = some (id, r)) :
    (id, r) ∈ c.changeSets ∧ r.name = ChangeSetName.of generation revision := by
  subst hgeneration
  obtain ⟨hmem, hid | ⟨-, -, hname⟩⟩ := h.coherent.mem_of_find? hfind
  · refine ⟨hmem, ?_⟩
    obtain ⟨hlegible, g, revision', -, hname⟩ := h.named _ hmem
    obtain ⟨n, -, harn⟩ := h.coherent.arn _ hmem
    have hread : ChangeSetHandle.readName id.toList = r.name := by
      rw [show id = changeSetArn r.region r.name n from harn, show r.name = _ from hname]
      exact hlegible g revision' n
    rw [← hread]
    unfold Manifest.handle at hid
    rcases attemptHandle_eq m.base.lastAttemptedChangeSet
        (ChangeSetName.of m.generation revision) with
      hnew | ⟨s, -, hparsed, hs⟩
    · rw [hnew] at hid
      cases hid
    · rw [hs] at hid
      rw [← hparsed]
      exact (ChangeSetHandle.name_of_parse_id hid).symm
  · exact ⟨hmem, hname.trans (m.handle_name revision)⟩

/-! ## What a round does -/

section

variable {v : Visit} {revision : String} {id : String} {r : ChangeSetRecord}

theorem eraseChangeSet (h : Faithful published generation key source hist c) (id : String) :
    Faithful published generation key source hist (c.eraseChangeSet id) := by
  have hmem : ∀ e ∈ (c.eraseChangeSet id).changeSets, e ∈ c.changeSets :=
    fun e he => (List.mem_filter.1 he).1
  exact ⟨h.coherent.of_sublist List.filter_sublist rfl, fun e he => h.named e (hmem e he),
    fun e he => h.founded e (hmem e he), h.bare, h.latest, fun e he => h.current e (hmem e he),
    fun e he => h.sound e (hmem e he)⟩

theorem eraseStack (h : Faithful published generation key source hist c)
    (hv : v.change? = some (.cleared key)) :
    Faithful published generation key source (v :: hist) (c.eraseStack key) := by
  refine ⟨h.coherent.of_sublist List.filter_sublist rfl,
    fun e he => h.named e (mem_eraseStack_iff.1 he).1, Founded.eraseStack h.founded key,
    ?_, ?_, ?_, ?_⟩
  · intro k s hs
    rw [stack?_eraseStack] at hs
    split at hs
    · cases hs
    · exact h.bare k s hs
  · intro k
    rw [stack?_eraseStack, latestDeployment_cleared hv]
    by_cases hk : k = key
    · rw [if_pos hk, if_pos hk.symm]
      rfl
    · rw [if_neg hk, if_neg (Ne.symm hk)]
      exact h.latest k
  · intro e he revision hpublished hname
    obtain ⟨hin, hkey⟩ := mem_eraseStack_iff.1 he
    obtain ⟨hkey', -⟩ := h.current e hin revision hpublished hname
    exact absurd (beq_iff_eq.1 hkey') hkey
  · intro e he revision hpublished hname
    obtain ⟨hin, hkey⟩ := mem_eraseStack_iff.1 he
    obtain ⟨hkey', -⟩ := h.current e hin revision hpublished hname
    exact absurd (beq_iff_eq.1 hkey') hkey

theorem putRecord (h : Faithful published generation key source hist c) {s : StackRecord}
    (k : StackKey) (hbare : StackRecord.phase s = .notCreated → s.template = none)
    (htemplate : s.template = (c.stack? k).bind (·.template)) :
    Faithful published generation key source hist (c.putRecord k s) := by
  refine ⟨h.coherent.of_changeSets_eq rfl rfl, h.named, Founded.putRecord h.founded k s, ?_, ?_,
    h.current, h.sound⟩
  · intro k' s' hs'
    rw [stack?_putRecord] at hs'
    split at hs'
    · rw [← Option.some.inj hs']
      exact hbare
    · exact h.bare k' s' hs'
  · intro k'
    rw [stack?_putRecord]
    split
    · next hk =>
      rw [hk, Option.bind_some, htemplate]
      exact h.latest k
    · exact h.latest k'

theorem addChangeSet (h : Faithful published generation key source hist c)
    (distinct : ∀ g r r', published r → published r' →
      ChangeSetName.of g r = ChangeSetName.of g r' → r = r')
    (hpublished : published revision) (hlegible : Legible key.1)
    (hstack : (c.stack? key).isSome = true)
    (hkey : (r.region, r.stack) = key) (hname : r.name = ChangeSetName.of generation revision)
    (htemplate : r.template = some (source revision))
    (htried : ∃ v ∈ hist, v.Tried generation revision)
    (hsound : phaseOf (changeSetArn r.region r.name (c.issued + 1), r) = .success ∨
      phaseOf (changeSetArn r.region r.name (c.issued + 1), r) = .empty →
      latestDeployment key hist = some (source revision)) :
    Faithful published generation key source hist (c.addChangeSet r).2 := by
  have hsplit : ∀ e ∈ (c.addChangeSet r).2.changeSets,
      e ∈ c.changeSets ∨ e = (changeSetArn r.region r.name (c.issued + 1), r) := by
    intro e he
    exact (List.mem_append.1 he).imp_right List.mem_singleton.1
  refine ⟨h.coherent.addChangeSet r, ?_, Founded.addChangeSet h.founded (hkey ▸ hstack), h.bare,
    h.latest, ?_, ?_⟩
  · intro e he
    rcases hsplit e he with he | rfl
    · exact h.named e he
    · refine ⟨?_, generation, revision, Int64.le_refl _, hname⟩
      rw [show r.region = key.1 from congrArg Prod.fst hkey]
      exact hlegible
  · intro e he revision' hpublished' hname'
    rcases hsplit e he with he | rfl
    · exact h.current e he revision' hpublished' hname'
    · rw [← distinct generation revision revision' hpublished hpublished' (hname.symm.trans hname')]
      exact ⟨beq_iff_eq.2 hkey, htemplate, htried⟩
  · intro e he revision' hpublished' hname' hdone hnot
    rcases hsplit e he with he | rfl
    · exact h.sound e he revision' hpublished' hname' hdone hnot
    · rw [← distinct generation revision revision' hpublished hpublished' (hname.symm.trans hname')]
      exact hsound hdone

/-- The change set of the revision is executed. The others of this generation are those of revisions
that have been tried before, and those are interrupted now. -/
theorem execute (h : Faithful published generation key source hist c)
    (hpublished : published revision)
    (hmem : (id, r) ∈ c.changeSets) (hname : r.name = ChangeSetName.of generation revision)
    (htried : v.Tried generation revision) (hsource : v.source = some (source revision))
    (hv : v.change? = some (.executed key)) :
    Faithful published generation key source (v :: hist) (c.execute key id r) := by
  obtain ⟨hkey, htemplate, -⟩ := h.current _ hmem revision hpublished hname
  have hstack : (c.stack? key).isSome = true := by
    rw [← show (r.region, r.stack) = key from beq_iff_eq.1 hkey]
    exact h.founded _ hmem
  have hback : ∀ e ∈ (c.execute key id r).changeSets, ∃ e₀ ∈ c.changeSets,
      e.2.region = e₀.2.region ∧
      e.2.stack = e₀.2.stack ∧ e.2.name = e₀.2.name ∧ e.2.template = e₀.2.template := by
    intro e he
    obtain ⟨r₀, hmem₀, hrecord⟩ := exists_of_mem_execute he
    refine ⟨_, hmem₀, ?_⟩
    rw [hrecord]
    split <;> exact ⟨rfl, rfl, rfl, rfl⟩
  have hstack? : ∀ k, (c.execute key id r).stack? k = if k =
      key then some (deployed r) else c.stack? k := by
    intro k
    obtain ⟨stack, hstack⟩ := Option.isSome_iff_exists.1 hstack
    rw [stack?_execute, hstack, Option.map_some]
  refine ⟨h.coherent.execute key id r, ?_, Founded.execute h.founded key id r, ?_, ?_, ?_, ?_⟩
  · intro e he
    obtain ⟨e₀, he₀, hregion, -, hname₀, -⟩ := hback e he
    rw [hregion, hname₀]
    exact h.named e₀ he₀
  · intro k s hs hphase
    rw [hstack?] at hs
    split at hs
    · rw [← Option.some.inj hs, deployed_phase] at hphase
      cases hphase
    · exact h.bare k s hs hphase
  · intro k
    rw [hstack?, latestDeployment_executed hv]
    by_cases hk : k = key
    · rw [if_pos hk, if_pos hk.symm, hsource]
      exact htemplate
    · rw [if_neg hk, if_neg (Ne.symm hk)]
      exact h.latest k
  · intro e he revision' hpublished' hname'
    obtain ⟨e₀, he₀, hregion, hstack₀, hname₀, htemplate₀⟩ := hback e he
    obtain ⟨hkey', htemplate', w, hw, htried'⟩ :=
      h.current e₀ he₀ revision' hpublished' (hname₀.symm.trans hname')
    refine ⟨?_, htemplate₀.trans htemplate', w, List.mem_cons_of_mem v hw, htried'⟩
    rw [ChangeSetRecord.belongsTo, hregion, hstack₀]
    exact hkey'
  · intro e he revision' hpublished' hname' _ hnot
    obtain ⟨e₀, he₀, -, -, hname₀, -⟩ := hback e he
    obtain ⟨-, -, w, hw, htried'⟩ :=
      h.current e₀ he₀ revision' hpublished' (hname₀.symm.trans hname')
    by_cases hsame : revision = revision'
    · rw [latestDeployment_executed hv, if_pos rfl, hsource, hsame]
    · exact absurd (interrupted_of_tried hw htried' htried hsame) hnot

end

end Faithful

/-! ## Courses -/

def KeepsFaith (s : OperatorSettings) (published : String → Prop)
    (template : String → String → String)
    (hist : List Visit) (m : Manifest) (c : MemoryCloud) : Prop :=
  Faithful published m.generation (m.stackKey s)
    (fun revision => m.source s revision (template m.spec.templatePath revision)) hist c

namespace KeepsFaith

variable {s : OperatorSettings} {published : String → Prop} {template : String → String → String}
  {hist : List Visit}

/-- An edited object starts over; one that is not edited keeps stack and sources. -/
theorem between {m m' : Manifest} {c c' : MemoryCloud}
    (h : KeepsFaith s published template hist m c)
    (hb : (publishing s published template).between m c m' c') :
    KeepsFaith s published template hist m' c' := by
  obtain ⟨hobject, hrecords, hsets, hissued⟩ := hb
  have hcloud : KeepsFaith s published template hist m c' := Faithful.of_eq h hrecords hsets hissued
  rcases hobject with ⟨hname, hns, hspec, hgeneration⟩ | hlt
  · have hkey : m'.stackKey s = m.stackKey s := by
      rw [Manifest.stackKey, hspec]
      rfl
    have hsource : ∀ revision body, m'.source s revision body = m.source s revision body := by
      intro revision body
      rw [Manifest.source, hname, hns, hkey, hgeneration]
      rfl
    simp only [KeepsFaith, hgeneration, hkey, hspec, hsource]
    exact hcloud
  · exact Faithful.edited hcloud hlt

theorem round (distinct : ∀ g r r', published r → published r' →
    ChangeSetName.of g r = ChangeSetName.of g r' → r = r')
    {v : Visit} {c c' : MemoryCloud} (h : KeepsFaith s published template hist v.object c)
    (hallowed : (publishing s published template).allows v) (hvalid : v.Valid c c') :
    KeepsFaith s published template (v :: hist) v.after c' := by
  obtain ⟨rfl, hlegible, hpublished⟩ := hallowed
  unfold KeepsFaith at h ⊢
  simp only [Visit.after_generation, Visit.after_stackKey, Visit.after_spec, Visit.after_source]
  cases hvalid.upshot with
  | quiet hquiet hs _ => exact (h.later (.inl hquiet)).sameStore hs
  | cleared hcleared hs _ => exact (h.eraseStack hcleared).sameStore hs
  | @pursued revision body reference base a st hloaded heffect _ hattempt hwrites =>
    obtain ⟨hrevision, rfl⟩ := hpublished revision body hloaded
    have htried : v.Tried v.object.generation revision := ⟨rfl, _, hloaded⟩
    have hsource : v.source = some (v.object.source v.operator.settings revision
        (template v.object.spec.templatePath revision)) := by
      rw [Visit.source, hloaded]
      rfl
    have hchanged : v.change? = change? (remote v.exchanges) := Visit.change?_of_remote rfl
    have htarget := v.operator.targetOf_source v.object revision
        (template v.object.spec.templatePath revision)
    generalize ht : v.operator.targetOf v.object revision
        (template v.object.spec.templatePath revision) = t
      at heffect htarget
    have hkey : t.key = v.object.stackKey v.operator.settings := by rw [← ht]; rfl
    have hhandle : t.changeSet = v.object.handle revision := by rw [← ht]; rfl
    have hname : t.changeSet.name = ChangeSetName.of v.object.generation revision := by
      rw [hhandle, Manifest.handle_name]
    cases heffect with
    | noted hchange hs _ _ => exact (h.later (.inl (hchanged.trans hchange))).sameStore hs
    | upToDate hchange _ _ hs => exact (h.later (.inl (hchanged.trans hchange))).sameStore hs
    | dropped hchange _ _ _ hs =>
        exact ((h.later (.inl (hchanged.trans hchange))).eraseChangeSet reference).sameStore hs
    | executed hchange hfind _ hs =>
      rw [hkey] at hchange hs
      rw [hhandle] at hfind
      obtain ⟨hmem, hfound⟩ := h.name_of_find? rfl hfind
      exact (h.execute hrevision hmem hfound htried hsource (hchanged.trans hchange)).sameStore hs
    | created hchange hnotCreated _ _ hs =>
      rw [hkey] at hnotCreated hs
      have hbare : reservedStack.template = (c.stack? (v.object.stackKey v.operator.settings)).bind
          (·.template) := by
        cases hstack : c.stack? (v.object.stackKey v.operator.settings) with
        | none => rfl
        | some record => exact (h.bare _ record hstack (hnotCreated record hstack)).symm
      have hreserved := (h.later (.inr (hchanged.trans hchange))).putRecord
          (v.object.stackKey v.operator.settings) (fun _ => rfl) hbare
      refine Faithful.sameStore ?_ hs
      refine hreserved.addChangeSet distinct hrevision hlegible ?_ hkey hname ?_ ?_ ?_
      · rw [stack?_putRecord, if_pos rfl]
        rfl
      · exact congrArg some htarget
      · exact ⟨v, List.mem_cons_self, htried⟩
      · intro hdone
        rw [phaseOf_recordOf] at hdone
        rcases hdone with hdone | hdone
        · cases hdone
        · cases hdone
    | @updated stack _ hchange hstack _ _ _ hs =>
      rw [hkey] at hstack
      have hlater := h.later (.inr (hchanged.trans hchange))
      refine (hlater.addChangeSet distinct hrevision hlegible ?_ ?_
          ((updateRecord_name _ _).trans hname) ?_ ?_ ?_).sameStore hs
      · rw [hstack]
        rfl
      · rw [updateRecord_region, updateRecord_stack]
        exact hkey
      · exact (updateRecord_template _ _).trans (congrArg some htarget)
      · exact ⟨v, List.mem_cons_self, htried⟩
      · -- the service refuses as empty what would deploy the same again
        intro hdone
        unfold updateRecord at hdone
        split at hdone
        · next hsame =>
          rw [← hlater.latest, hstack, ← htarget]
          exact hsame
        · rw [phaseOf_recordOf] at hdone
          rcases hdone with hdone | hdone
          · cases hdone
          · cases hdone
    | resumed hchange hstack _ hs =>
      refine ((h.later (.inl (hchanged.trans hchange))).putRecord t.key ?_ ?_).sameStore hs
      · intro hphase
        rw [rolledBack_phase] at hphase
        cases hphase
      · rw [hstack]
        rfl
    | cleared hchange _ _ hs =>
      rw [hkey] at hchange hs
      exact (h.eraseStack (hchanged.trans hchange)).sameStore hs

end KeepsFaith

theorem keepsFaith_of_course {s : OperatorSettings} {published : String → Prop}
    {template : String → String → String} {hist : List Visit} {m : Manifest} {c : MemoryCloud}
    (distinct : ∀ g r r', published r → published r' →
      ChangeSetName.of g r = ChangeSetName.of g r' → r = r')
    (course : Course (publishing s published template) hist m c) :
    KeepsFaith s published template hist m c :=
  course.invariant (fun _ _ h => .empty h.1 h.2)
    (fun _ _ _ _ hallowed hvalid h => h.round distinct hallowed hvalid)
    (fun _ _ _ _ _ hb h => h.between hb)

/-- A round that says `Ready` has loaded a template, and the stack is there. It has that template
exactly if the latest deployment was that of a round with this source, and it does if the revision
has not been interrupted: the change set a round finds under its name tells that it has been
executed, but not that it was the last to be. -/
theorem ready_sound_iff {s : OperatorSettings} {published : String → Prop}
    {template : String → String → String}
    {hist : List Visit} {v : Visit} {c c' : MemoryCloud} {d : Status} {ready : Condition}
    (distinct : ∀ g r r', published r → published r' →
      ChangeSetName.of g r = ChangeSetName.of g r' → r = r')
    (course : Course (publishing s published template) hist v.object c)
    (allowed : (publishing s published template).allows v) (valid : v.Valid c c')
    (returned : v.outcome.status = some d) (found : d.ready? = some ready)
    (holds : ready.isTrue = true) :
    ∃ revision body record, v.loaded = some (revision, body) ∧ c'.stack? v.key = some record ∧
      (record.template = some (v.object.source s revision body) ↔
        latestDeployment v.key hist = some (v.object.source s revision body)) ∧
      (¬ Interrupted v.object.generation revision hist →
        record.template = some (v.object.source s revision body)) := by
  have hfaith := keepsFaith_of_course distinct course
  obtain ⟨rfl, -, hpublished⟩ := allowed
  rw [Condition.isTrue, beq_iff_eq] at holds
  have hverdict : ∀ {base : Status} {a : Attempt} {st : ConditionStatus}, base.Moves a st d →
      st = .true := by
    intro base a st hmoves
    obtain ⟨ready', hready, hstatus, -⟩ := hmoves.ready?
    rw [found, Option.some.injEq] at hready
    rw [← hstatus, ← hready, holds]
  have hnot : ¬ v.Unready := by
    intro hunready
    obtain ⟨base, a, st, -, -, hst, hmoves⟩ := hunready d returned
    exact hst (hverdict hmoves)
  cases valid.upshot with
  | quiet _ _ hunready => exact absurd hunready hnot
  | cleared _ _ hunready => exact absurd hunready hnot
  | @pursued revision body reference base a st hloaded heffect _ _ hwrites =>
    obtain ⟨d', hd', hmoves⟩ := hwrites
    rw [returned, Option.some.injEq] at hd'
    subst hd'
    obtain rfl := hverdict hmoves
    obtain ⟨hrevision, rfl⟩ := hpublished revision body hloaded
    -- either way there is a change set of the revision that is done with, and the stack stays as it
    -- was
    have hdone : ∃ id r, c.find? v.key (v.object.handle revision) = some (id, r) ∧
        (phaseOf (id, r) = .success ∨ phaseOf (id, r) = .empty) ∧
        c'.stack? v.key = c.stack? v.key := by
      cases heffect with
      | noted _ _ hst _ => exact absurd rfl hst
      | upToDate _ hfind hphase hs => exact ⟨_, _, hfind, .inl hphase, hs.stack? _⟩
      | dropped _ hfind hempty _ hs => exact ⟨_, _, hfind, .inr (hempty rfl), hs.stack? _⟩
    obtain ⟨id, r, hfind, hphase, hstack'⟩ := hdone
    obtain ⟨hmem, hname⟩ := Faithful.name_of_find? hfaith rfl hfind
    obtain ⟨hkey, -, -⟩ := hfaith.current _ hmem revision hrevision hname
    have hfounded := hfaith.founded _ hmem
    rw [show (r.region, r.stack) = v.key from beq_iff_eq.1 hkey,
        Option.isSome_iff_exists] at hfounded
    obtain ⟨record, hrecord⟩ := hfounded
    have hlatest : record.template = latestDeployment v.key hist := by
      rw [← Faithful.latest hfaith, hrecord]
      rfl
    refine ⟨revision, _, record, hloaded, hstack'.trans hrecord, ?_, ?_⟩
    · rw [hlatest]
    · intro huninterrupted
      rw [hlatest]
      exact Faithful.sound hfaith _ hmem revision hrevision hname hphase huninterrupted

/-! ## Going back to a revision

Two revisions are published by turns, with a template each. The templates go to a bucket, each under
a name of its own. -/

namespace Sample

def alternating : Plan :=
  publishing operator.settings (fun r => r = "a" ∨ r = "b") fun _ revision => body revision

theorem alternating_distinct (g : Int64) (r r' : String) (hr : r = "a" ∨ r = "b")
    (hr' : r' = "a" ∨ r' = "b") (h : ChangeSetName.of g r = ChangeSetName.of g r') : r = r' := by
  have hplain : ∀ r, r = "a" ∨ r = "b" →
      r.isEmpty = false ∧ r.toList.length ≤ 102 ∧ r.toList.map ChangeSetName.char = r.toList := by
    rintro r (rfl | rfl) <;> exact ⟨rfl, by simp, rfl⟩
  refine ChangeSetName.revision_eq_of_of_eq ?_ h
  rintro x hx
  rcases List.mem_cons.1 hx with rfl | hx
  · exact hplain _ hr
  · rw [List.mem_singleton.1 hx]
    exact hplain _ hr'

theorem alternating_between (m : Manifest) (c : MemoryCloud) : alternating.between m c m c :=
  ⟨.inl ⟨rfl, rfl, rfl, rfl⟩, rfl, rfl, rfl⟩

theorem alternating_allows (x : Stage) {revision : String} (hspec : x.object.spec = object.spec)
    (hrevision : revision = "a" ∨ revision = "b") : alternating.allows (x.visit revision true) := by
  have hregion : "eu-north-1".toList.all (fun c => c ≠ ':' ∧ c ≠ '/') = true := rfl
  refine ⟨rfl, ?_, ?_⟩
  · have hkey : (x.visit revision true).key.1 = "eu-north-1" := by
      show x.object.spec.regionOr operator.settings.defaultRegion = _
      rw [hspec]
      rfl
    rw [hkey]
    exact legible_of_plain fun c hc => by simpa using List.all_eq_true.1 hregion c hc
  · intro r body hloaded
    obtain ⟨rfl, rfl⟩ := Prod.mk.inj (Option.some.inj hloaded)
    exact ⟨hrevision, rfl⟩

def first : Stage := ⟨[], object, .ofNetwork default⟩
def created : Stage := first.next "a" true
def deployed : Stage := created.next "a" true
def superseding : Stage := deployed.next "b" true
def superseded : Stage := superseding.next "b" true

theorem first_reached : first.Reached alternating := ⟨.start ⟨rfl, rfl⟩, rfl, rfl, rfl⟩

theorem created_reached : created.Reached alternating :=
  first_reached.next (alternating_allows first first_reached.spec (.inl rfl)) alternating_between
    rfl

theorem deployed_reached : deployed.Reached alternating :=
  created_reached.next (alternating_allows created created_reached.spec (.inl rfl))
    alternating_between rfl

theorem superseded_reached : superseded.Reached alternating := by
  have hduty : superseding.object.lifecycleFacts.choice.duty = some .reconcile ∧
      superseded.object.lifecycleFacts.choice.duty = some .reconcile := by decide +kernel
  have hsuperseding : superseding.Reached alternating :=
    deployed_reached.next (alternating_allows deployed deployed_reached.spec (.inr rfl))
        alternating_between hduty.1
  exact hsuperseding.next (alternating_allows superseding hsuperseding.spec (.inr rfl))
      alternating_between hduty.2

theorem exists_ready {out : Outcome} (h : (out.status.bind (·.ready?)).map (·.isTrue) = some true) :
    ∃ d ready, out.status = some d ∧ d.ready? = some ready ∧ ready.isTrue = true := by
  obtain ⟨ready, hready, htrue⟩ := Option.map_eq_some_iff.1 h
  obtain ⟨d, hd, hfound⟩ := Option.bind_eq_some_iff.1 hready
  exact ⟨d, ready, hd, hfound, htrue⟩

theorem deployed_ready : ∃ d ready, (deployed.visit "a" true).outcome.status = some d ∧
    d.ready? = some ready ∧ ready.isTrue = true :=
  exists_ready (by decide +kernel)

end Sample

open Sample in
/-- Once the first revision is deployed, a round for it is right to be ready. -/
theorem ready_sound_iff_deployed : ∃ record,
    (deployed.next "a" true).world.cloud.stack? (deployed.visit "a" true).key = some record ∧
      record.template = (deployed.visit "a" true).source := by
  have hlatest : latestDeployment (deployed.visit "a" true).key deployed.visits =
      (deployed.visit "a" true).source := rfl
  obtain ⟨d, ready, returned, found, holds⟩ := deployed_ready
  obtain ⟨revision, body, record, hloaded, hrecord, hiff, -⟩ :=
    ready_sound_iff (v := deployed.visit "a" true)
    alternating_distinct deployed_reached.course (alternating_allows deployed deployed_reached.spec
      (.inl rfl)) deployed_reached.valid.1
    returned found holds
  obtain ⟨rfl, rfl⟩ := Prod.mk.inj (Option.some.inj hloaded)
  exact ⟨record, hrecord, hiff.2 hlatest⟩

open Sample in
/-- Once the second revision is deployed, a round for the first one still calls the stack ready,
although it has the other template. -/
theorem not_always_ready_sound : ¬ ∀ (s : OperatorSettings) (published : String → Prop)
    (template : String → String → String) (hist : List Visit) (v : Visit)
    (c c' : MemoryCloud) (d : Status) (ready : Condition),
    (∀ g r r', published r → published r' → ChangeSetName.of g r = ChangeSetName.of g r' → r = r') →
    Course (publishing s published template) hist v.object c →
    (publishing s published template).allows v →
    v.Valid c c' → v.outcome.status = some d → d.ready? = some ready → ready.isTrue = true →
    ∃ revision body record, v.loaded = some (revision, body) ∧ c'.stack? v.key = some record ∧
      record.template = some (v.object.source s revision body) := by
  intro always
  have hready : ((superseded.visit "a" true).outcome.status.bind (·.ready?)).map
      (·.isTrue) = some true := by
    decide +kernel
  have hother :
      ((superseded.next "a" true).world.cloud.stack? (superseded.visit "a" true).key).bind
        (·.template) ≠ (superseded.visit "a" true).source := by
    decide +kernel
  obtain ⟨d, ready, returned, found, holds⟩ := exists_ready hready
  obtain ⟨revision, body, record, hloaded, hrecord, htemplate⟩ :=
    always operator.settings _ (fun _ revision => body revision) _
    (superseded.visit "a" true) _ _ d ready alternating_distinct superseded_reached.course
    (alternating_allows superseded superseded_reached.spec (.inl rfl))
    superseded_reached.valid.1 returned found holds
  obtain ⟨rfl, rfl⟩ := Prod.mk.inj (Option.some.inj hloaded)
  refine hother ?_
  rw [hrecord]
  exact htemplate

end StackSync
