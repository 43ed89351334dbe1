import StackSync.Proofs.Reconcile.Addressing
import StackSync.Proofs.Reconcile.Writers
import StackSync.Simulation.World

/-!
# The keys of uploaded templates

The key of an uploaded template is made of the namespace, the name and the change set name, joined by dashes,
and all three may have dashes in them. So keys of two objects can be the same text cut at different dashes.
The main theorem says exactly when they are, and that otherwise nothing one object uploads can take the place
of what the change set of the other is made from.
-/

namespace StackSync

open Program

/-! ## One text cut at two places -/

/-- Two ways of cutting a list at a separator are the same, or one cuts further right. -/
theorem append_cons_eq_append_cons_iff {α : Type} {a : α} {l r l' r' : List α} :
    l ++ a :: r = l' ++ a :: r' ↔
      (l = l' ∧ r = r') ∨ (∃ w, l' = l ++ a :: w ∧ r = w ++ a :: r') ∨
        ∃ w, l = l' ++ a :: w ∧ r' = w ++ a :: r := by
  constructor
  · intro h
    rcases List.append_eq_append_iff.1 h with ⟨w, hl, hr⟩ | ⟨w, hl, hr⟩
    · cases w with
      | nil =>
        rw [List.append_nil] at hl
        rw [List.nil_append, List.cons.injEq] at hr
        exact .inl ⟨hl.symm, hr.2⟩
      | cons b w =>
        rw [List.cons_append, List.cons.injEq] at hr
        obtain ⟨rfl, hr⟩ := hr
        exact .inr (.inl ⟨w, hl, hr⟩)
    · cases w with
      | nil =>
        rw [List.append_nil] at hl
        rw [List.nil_append, List.cons.injEq] at hr
        exact .inl ⟨hl, hr.2.symm⟩
      | cons b w =>
        rw [List.cons_append, List.cons.injEq] at hr
        obtain ⟨rfl, hr⟩ := hr
        exact .inr (.inr ⟨w, hl, hr⟩)
  · rintro (⟨rfl, rfl⟩ | ⟨w, rfl, rfl⟩ | ⟨w, rfl, rfl⟩)
    · rfl
    · rw [List.append_assoc, List.cons_append]
    · rw [List.append_assoc, List.cons_append]

/-- What stands behind the last separator is told by the whole. -/
theorem eq_of_append_cons_eq {α : Type} {a : α} {l r l' r' : List α} (hr : a ∉ r) (hr' : a ∉ r')
    (h : l ++ a :: r = l' ++ a :: r') : r = r' := by
  rcases append_cons_eq_append_cons_iff.1 h with ⟨-, heq⟩ | ⟨w, -, hw⟩ | ⟨w, -, hw⟩
  · exact heq
  · exact absurd (hw ▸ List.mem_append_right w List.mem_cons_self) hr
  · exact absurd (hw ▸ List.mem_append_right w List.mem_cons_self) hr'

/-- The second pair reads the same as the first when both are joined by a dash, and is cut at a
dash further right. -/
def Shifted (left right left' right' : String) : Prop :=
  ∃ moved, left' = left ++ "-" ++ moved ∧ right = moved ++ "-" ++ right'

theorem dashed_eq_iff {left right left' right' : String} :
    left ++ "-" ++ right = left' ++ "-" ++ right' ↔
      (left = left' ∧ right = right') ∨ Shifted left right left' right' ∨
        Shifted left' right' left right := by
  have hlist : ∀ a b : String, (a ++ "-" ++ b).toList = a.toList ++ '-' :: b.toList := by
    intro a b
    rw [String.toList_append, String.toList_append, List.append_assoc]
    rfl
  have hshifted : ∀ a b a' b' : String, Shifted a b a' b' ↔
      ∃ w, a'.toList = a.toList ++ '-' :: w ∧ b.toList = w ++ '-' :: b'.toList := by
    intro a b a' b'
    constructor
    · rintro ⟨moved, rfl, rfl⟩
      exact ⟨moved.toList, hlist a moved, hlist moved b'⟩
    · rintro ⟨w, ha, hb⟩
      refine ⟨String.ofList w, String.toList_inj.1 ?_, String.toList_inj.1 ?_⟩
      · rw [hlist, String.toList_ofList, ha]
      · rw [hlist, String.toList_ofList, hb]
  rw [hshifted, hshifted, ← String.toList_inj, hlist, hlist, append_cons_eq_append_cons_iff,
    String.toList_inj, String.toList_inj]

/-! ## Keys -/

/-- The names of two objects and of their change sets come to the same key: the dash between
namespace and name can stand elsewhere, or the one in front of the change set name. -/
def Confusable (ns name changeSet ns' name' changeSet' : String) : Prop :=
  (changeSet = changeSet' ∧ (Shifted ns name ns' name' ∨ Shifted ns' name' ns name)) ∨
    Shifted (ns ++ "-" ++ name) changeSet (ns' ++ "-" ++ name') changeSet' ∨
    Shifted (ns' ++ "-" ++ name') changeSet' (ns ++ "-" ++ name) changeSet

theorem dash_mem_dashed (left right : String) : '-' ∈ (left ++ "-" ++ right).toList := by
  rw [String.toList_append, String.toList_append]
  exact List.mem_append_left _ (List.mem_append_right _ List.mem_cons_self)

theorem not_shifted_of_dashless {left right left' right' : String} (h : '-' ∉ left'.toList) :
    ¬ Shifted left right left' right' := by
  rintro ⟨moved, rfl, -⟩
  exact h (dash_mem_dashed left moved)

/-- Objects without dashes in their namespaces and names are never confused. -/
theorem not_confusable_of_dashless {ns name ns' name' : String}
    (h : ∀ part ∈ [ns, name, ns', name'], '-' ∉ part.toList) (changeSet changeSet' : String) :
    ¬ Confusable ns name changeSet ns' name' changeSet' := by
  -- a cut further right would put a dash into the namespace or the name of the other object
  have hfurther : ∀ {ns name ns' name' right right' : String}, '-' ∉ name'.toList →
      '-' ∉ ns.toList → '-' ∉ ns'.toList →
      ¬ Shifted (ns ++ "-" ++ name) right (ns' ++ "-" ++ name') right' := by
    rintro ns name ns' name' right right' hname' hns hns' ⟨moved, hleft, -⟩
    have hassoc : ns ++ "-" ++ name ++ "-" ++ moved = ns ++ "-" ++ (name ++ "-" ++ moved) := by
      simp only [String.append_assoc]
    rw [hassoc, dashed_eq_iff] at hleft
    rcases hleft with ⟨-, rfl⟩ | hshifted | hshifted
    · exact hname' (dash_mem_dashed name moved)
    · exact not_shifted_of_dashless hns hshifted
    · exact not_shifted_of_dashless hns' hshifted
  simp only [List.forall_mem_cons] at h
  obtain ⟨hns, hname, hns', hname', -⟩ := h
  rintro (⟨-, hshifted | hshifted⟩ | hshifted | hshifted)
  · exact not_shifted_of_dashless hns' hshifted
  · exact not_shifted_of_dashless hns hshifted
  · exact hfurther hname' hns hns' hshifted
  · exact hfurther hname hns' hns hshifted

namespace TargetStack

variable {t t' : TargetStack}

theorem objectKey_eq_iff :
    t.objectKey = t'.objectKey ↔
      t.objectNs ++ "-" ++ t.objectName ++ "-" ++ t.changeSet.name =
        t'.objectNs ++ "-" ++ t'.objectName ++ "-" ++ t'.changeSet.name := by
  have hkey : ∀ t : TargetStack, t.objectKey.toList = "flux-".toList ++
      ((t.objectNs ++ "-" ++ t.objectName ++ "-" ++ t.changeSet.name).toList ++
        ".template".toList) := by
    intro t
    simp only [objectKey, String.toList_append, List.append_assoc]
  rw [← String.toList_inj, hkey, hkey, List.append_cancel_left_eq, List.append_cancel_right_eq,
    String.toList_inj]

theorem objectKey_eq_iff_of_ne (t t' : TargetStack)
    (h : (t.objectNs, t.objectName) ≠ (t'.objectNs, t'.objectName)) :
    t.objectKey = t'.objectKey ↔ Confusable t.objectNs t.objectName t.changeSet.name
      t'.objectNs t'.objectName t'.changeSet.name := by
  have hne : ¬ (t.objectNs = t'.objectNs ∧ t.objectName = t'.objectName) := fun heq =>
    h (Prod.ext heq.1 heq.2)
  rw [objectKey_eq_iff, dashed_eq_iff, dashed_eq_iff, Confusable]
  constructor
  · rintro (⟨heq | hshifted, hname⟩ | hshifted)
    · exact absurd heq hne
    · exact .inl ⟨hname, hshifted⟩
    · exact .inr hshifted
  · rintro (⟨hname, hshifted⟩ | hshifted)
    · exact .inl ⟨.inr hshifted, hname⟩
    · exact .inr hshifted

/-- Neither part of the address has a slash in it that could be taken for the one before the key. -/
theorem objectKey_eq_of_objectUrl_eq {bucket : String} (hslash : '/' ∉ t.objectKey.toList)
    (hslash' : '/' ∉ t'.objectKey.toList)
    (h : objectUrl bucket t.region t.objectKey = objectUrl bucket t'.region t'.objectKey) :
    t.objectKey = t'.objectKey := by
  have hurl : ∀ region key : String, (objectUrl bucket region key).toList =
      ("https://" ++ bucket ++ ".s3." ++ region ++ ".amazonaws.com").toList ++
        '/' :: key.toList := by
    intro region key
    have hend : ".amazonaws.com/".toList = ".amazonaws.com".toList ++ ['/'] := rfl
    simp only [objectUrl, String.toList_append, hend, List.append_assoc, List.singleton_append]
  have hlist := congrArg String.toList h
  rw [hurl, hurl] at hlist
  exact String.toList_inj.1 (eq_of_append_cons_eq hslash hslash' hlist)

end TargetStack

/-! ## What a round uploads -/

namespace Operator

variable {o : Operator} {time : String} {m : Manifest} {es : List Exchange} {out : Outcome}
  {bucket region key body : String}

/-- A round uploads nothing but the template of the revision it has loaded, under its key. -/
theorem loaded_of_upload (ran : Ran (o.reconcile time m) es out) {e : Exchange} (he : e ∈ es)
    (hupload : e.request = .uploadTemplate bucket region key body) :
    ∃ revision, o.Loaded m es revision body ∧ o.settings.templateBucket = some bucket ∧
      region = (o.targetOf m revision body).region ∧
      key = (o.targetOf m revision body).objectKey := by
  have hremote : e ∈ remote es := List.mem_filter.2 ⟨he, by rw [hupload]; rfl⟩
  cases passage_of_reconcile ran with
  | idle _ hnone _ | stopped hnone _ _ _ => rw [hnone] at hremote; cases hremote
  | tornDown _ htorn _ =>
    generalize remote es = calls at htorn hremote
    cases htorn with
    | looked =>
      rw [List.mem_singleton.1 hremote] at hupload
      cases hupload
    | deleted =>
      rcases List.mem_cons.1 hremote with rfl | hremote
      · cases hupload
      · rw [List.mem_singleton.1 hremote] at hupload
        cases hupload
  | @pursued revision body' _ _ _ _ _ hloaded hpursuit _ _ _ =>
    have haddressed := hpursuit.addresses e hremote
    rw [hupload] at haddressed
    obtain ⟨hbucket, hregion, hkey, hbody⟩ := haddressed
    have hbody : body = body' := hbody
    subst hbody
    exact ⟨revision, hloaded, hbucket, hregion, hkey⟩

end Operator

/-! ## The stored templates -/

namespace MemoryTemplates

/-- What a conversation leaves of the stored templates: only uploads change them. -/
def after (s : MemoryTemplates) : List Exchange → MemoryTemplates
  | [] => s
  | ⟨.uploadTemplate bucket region key body, _⟩ :: es => (s.upload bucket region key body).2.after es
  | _ :: es => s.after es

theorem templates_run {α : Type} (p : Program α) (w : World) :
    (run World.answer p w).2.templates = w.templates.after (exchanges World.answer p w) := by
  induction p generalizing w with
  | done a => rfl
  | ask r next ih =>
    show (run World.answer (next (World.answer r w).1) (World.answer r w).2).2.templates = _
    rw [ih]
    cases r <;> rfl

theorem get?_upload_of_ne {s : MemoryTemplates} {bucket region key body url : String}
    (h : url ≠ objectUrl bucket region key) :
    (s.upload bucket region key body).2.get? url = s.get? url := by
  unfold upload
  split
  · rfl
  · exact (MemoryCloud.lookup_cons_filter_ne _ _ _ _).trans (if_neg h)

theorem get?_after_of_ne {url : String} {es : List Exchange}
    (h : ∀ e ∈ es, ∀ bucket region key body, e.request = .uploadTemplate bucket region key body →
      url ≠ objectUrl bucket region key) (s : MemoryTemplates) :
    (s.after es).get? url = s.get? url := by
  induction es generalizing s with
  | nil => rfl
  | cons e es ih =>
    obtain ⟨hhead, htail⟩ := List.forall_mem_cons.1 h
    obtain ⟨r, answer⟩ := e
    cases r with
    | uploadTemplate bucket region key body =>
      exact (ih htail _).trans (get?_upload_of_ne (hhead bucket region key body rfl))
    | _ => exact ih htail s

end MemoryTemplates

/-! ## Two objects -/

namespace Operator

variable {m m' : Manifest}

/-- Slashes come into a key only by the names of the object. -/
theorem slash_notMem_objectKey (o : Operator) (hns : '/' ∉ m.ns.toList) (hname : '/' ∉ m.name.toList)
    (revision body : String) : '/' ∉ (o.targetOf m revision body).objectKey.toList := by
  have hchangeSet : '/' ∉ (ChangeSetName.of m.generation revision).toList := by
    intro h
    rcases ChangeSetName.admitted_of_mem_of h with h | h
    · exact absurd h (by simp)
    · exact absurd h (by simp)
  have hkey : (o.targetOf m revision body).objectKey.toList = "flux-".toList ++ m.ns.toList ++
      "-".toList ++ m.name.toList ++ "-".toList ++ (ChangeSetName.of m.generation revision).toList ++
        ".template".toList := by
    rw [TargetStack.objectKey, targetOf_changeSet_name]
    simp only [String.toList_append]
    rfl
  have hparts : '/' ∉ "flux-".toList ∧ '/' ∉ "-".toList ∧ '/' ∉ ".template".toList := by
    simp
  rw [hkey]
  simp only [List.mem_append, not_or]
  exact ⟨⟨⟨⟨⟨⟨hparts.1, hns⟩, hparts.2.1⟩, hname⟩, hparts.2.1⟩, hchangeSet⟩, hparts.2.2⟩

/-- The keys of two objects are the same exactly if namespace, name and change set name of the one are
those of the other with a dash taken for another. As long as they are not for what a round loads, it
replaces nothing that the change set of the other object is made from. -/
theorem objectKey_eq_iff_confusable (other : (m.ns, m.name) ≠ (m'.ns, m'.name)) (o : Operator)
    (revision body revision' body' : String) :
    ((o.targetOf m revision body).objectKey = (o.targetOf m' revision' body').objectKey ↔
        Confusable m.ns m.name (ChangeSetName.of m.generation revision)
          m'.ns m'.name (ChangeSetName.of m'.generation revision')) ∧
      ∀ (time bucket : String) (w : World),
        (∀ part ∈ [m.ns, m.name, m'.ns, m'.name], '/' ∉ part.toList) →
        (∀ loaded template,
          o.Loaded m (exchanges World.answer (o.reconcile time m) w) loaded template →
          ¬ Confusable m.ns m.name (ChangeSetName.of m.generation loaded)
            m'.ns m'.name (ChangeSetName.of m'.generation revision')) →
        o.settings.templateBucket = some bucket →
        (run World.answer (o.reconcile time m) w).2.templates.get?
            (objectUrl bucket (o.targetOf m' revision' body').region
              (o.targetOf m' revision' body').objectKey) =
          w.templates.get? (objectUrl bucket (o.targetOf m' revision' body').region
            (o.targetOf m' revision' body').objectKey) := by
  have hiff : ∀ loaded template, (o.targetOf m loaded template).objectKey =
      (o.targetOf m' revision' body').objectKey ↔
        Confusable m.ns m.name (ChangeSetName.of m.generation loaded)
          m'.ns m'.name (ChangeSetName.of m'.generation revision') := by
    intro loaded template
    have hkeys := TargetStack.objectKey_eq_iff_of_ne (o.targetOf m loaded template)
      (o.targetOf m' revision' body') other
    rwa [targetOf_changeSet_name, targetOf_changeSet_name] at hkeys
  refine ⟨hiff revision body, fun time bucket w hslash hapart hbucket => ?_⟩
  rw [MemoryTemplates.templates_run]
  refine MemoryTemplates.get?_after_of_ne ?_ w.templates
  intro e he bucket' region key template hupload hurl
  obtain ⟨loaded, hloaded, hsame, rfl, rfl⟩ :=
    loaded_of_upload (ran_run World.answer _ w) he hupload
  rw [hbucket, Option.some.injEq] at hsame
  subst hsame
  have hkeys := TargetStack.objectKey_eq_of_objectUrl_eq
    (slash_notMem_objectKey o (hslash m.ns (by simp)) (hslash m.name (by simp)) loaded template)
    (slash_notMem_objectKey o (hslash m'.ns (by simp)) (hslash m'.name (by simp)) revision' body')
    hurl.symm
  exact hapart loaded template hloaded ((hiff loaded template).1 hkeys)

def teamsApp : Manifest where
  metadata := { (default : Metadata) with name := some "app", ns := some "team-a" }
  spec := default
  status := none

/-- Another object, whose name has the dash that the namespace of the first has. -/
def anotherTeamsApp : Manifest where
  metadata := { (default : Metadata) with name := some "a-app", ns := some "team" }
  spec := default
  status := none

theorem objectKey_eq_iff_confusable_teams :
    (teamsApp.ns, teamsApp.name) ≠ (anotherTeamsApp.ns, anotherTeamsApp.name) ∧
      (bareOperator.targetOf teamsApp "main@sha1:a" "Resources: {}").objectKey =
        (bareOperator.targetOf anotherTeamsApp "main@sha1:a" "Outputs: {}").objectKey := by
  have other : (teamsApp.ns, teamsApp.name) ≠ (anotherTeamsApp.ns, anotherTeamsApp.name) := nofun
  refine ⟨other, (objectKey_eq_iff_confusable other bareOperator _ _ _ _).1.2 (.inl ⟨rfl, .inr ?_⟩)⟩
  exact ⟨"a", rfl, rfl⟩

theorem not_always_objectKey_apart :
    ¬ ∀ (o : Operator) (m m' : Manifest) (revision body revision' body' : String),
      (m.ns, m.name) ≠ (m'.ns, m'.name) →
      (o.targetOf m revision body).objectKey ≠ (o.targetOf m' revision' body').objectKey := by
  intro h
  exact h bareOperator teamsApp anotherTeamsApp "main@sha1:a" "" "main@sha1:a" "" nofun
    rfl

end Operator

end StackSync
