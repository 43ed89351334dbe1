import StackSync.Proofs.Reconcile.Rounds
import StackSync.Proofs.Url.Host

/-!
# What is downloaded, and how often

Nothing is asked for until there is a digest to check by and an address to ask; a digest that cannot
be used is refused, whatever checksum stands beside it. From then on the replies decide. The first
one that no further attempt can mend ends the download, or the bound does (`Attempted`): this is
shown by induction on the attempts that are left, for a server that gives its replies one after
the other (`answering`). The last reply is the one that counts. Only if it delivers the advertised
bytes are they unpacked, and all else is an error (`fetchTemplate_delivers`).
-/

namespace StackSync

open Program

/-! ## Replies -/

namespace Reply

/-- The server fails, or cannot be reached or does not answer in time. -/
def IsRetryable : Reply → Prop
  | .response status _ => 500 ≤ status ∧ status < 600
  | .failure isRetryable _ => isRetryable = true

instance (r : Reply) : Decidable r.IsRetryable :=
  match r with
  | .response _ _ => inferInstanceAs (Decidable (_ ∧ _))
  | .failure _ _ => inferInstanceAs (Decidable (_ = _))

/-- The bytes of a successful response that is complete. -/
def delivered? : Reply → Option ByteArray
  | .response status (.ok data) => if 200 ≤ status ∧ status < 300 then some data else none
  | .response _ (.error _) | .failure _ _ => none

/-- What is said of a reply that delivers nothing. -/
def fault (url : Url) : Reply → ArtifactError
  | .response status (.error detail) =>
    if 200 ≤ status ∧ status < 300 then .http url.text detail else .status url.text status
  | .response status (.ok _) => .status url.text status
  | .failure _ detail => .http url.text detail

/-- What becomes of a download that ends with the reply. -/
def outcome (url : Url) (r : Reply) : Except ArtifactError ByteArray :=
  match r.delivered? with
  | some data => .ok data
  | none => .error (r.fault url)

variable {r : Reply} {url : Url}

theorem delivered?_of_isRetryable (h : r.IsRetryable) : r.delivered? = none := by
  cases r with
  | failure isRetryable detail => rfl
  | response status body =>
    obtain ⟨hlower, -⟩ := h
    have hnot : ¬ (200 ≤ status ∧ status < 300) := by omega
    cases body with
    | error detail => rfl
    | ok data => simp [delivered?, hnot]

theorem verdict_eq (r : Reply) (url : Url) : r.verdict url = (r.delivered?.map Verdict.body).getD
    (if r.IsRetryable then .tryAgain (r.fault url) else .giveUp (r.fault url)) := by
  cases r with
  | failure isRetryable detail =>
    cases isRetryable <;> simp [verdict, delivered?, fault, IsRetryable]
  | response status body =>
    by_cases hsuccess : 200 ≤ status ∧ status < 300
    · have hretry : ¬ (500 ≤ status ∧ status < 600) := by omega
      cases body <;> simp [verdict, delivered?, fault, IsRetryable, hsuccess, hretry]
    · by_cases hretry : 500 ≤ status ∧ status < 600 <;> cases body <;>
        simp [verdict, delivered?, fault, IsRetryable, hsuccess, hretry]

end Reply

/-! ## Attempts -/

/-- Gives the replies one after the other, however it is asked. -/
def answering (replies : Nat → Reply) (others : (r : Request) → r.Answer) : Handler Nat
  | .download _, n => (replies n, n + 1)
  | r, n => (others r, n)

/-- The download has ended with the reply at a place. -/
structure Attempted (retries : Nat) (replies : Nat → Reply) (last : Nat) : Prop where
  bounded : last ≤ retries
  retried : ∀ i < last, (replies i).IsRetryable
  stopped : last = retries ∨ ¬ (replies last).IsRetryable

namespace Attempted

variable {retries last : Nat} {replies : Nat → Reply}

theorem eq_min (h : Attempted retries replies last) {first : Nat}
    (hbefore : ∀ i < first, (replies i).IsRetryable) (hfirst : ¬ (replies first).IsRetryable) :
    last = min first retries := by
  have hle : last ≤ first := Nat.le_of_not_lt fun hlt => hfirst (h.retried first hlt)
  have hbounded := h.bounded
  rcases h.stopped with hlast | hstop
  · omega
  · have hge : first ≤ last := Nat.le_of_not_lt fun hlt => hstop (hbefore last hlt)
    omega

theorem eq_of_forall (h : Attempted retries replies last)
    (hall : ∀ i ≤ retries, (replies i).IsRetryable) : last = retries :=
  h.stopped.resolve_right fun hstop => hstop (hall last h.bounded)

theorem next (h : Attempted retries (fun i => replies (i + 1)) last)
    (hzero : (replies 0).IsRetryable) : Attempted (retries + 1) replies (last + 1) where
  bounded := by
    have hbounded := h.bounded
    omega
  retried i hi := by
    cases i with
    | zero => exact hzero
    | succ i => exact h.retried i (by omega)
  stopped := by
    rcases h.stopped with hlast | hstop
    · exact .inl (by omega)
    · exact .inr hstop

end Attempted

section

variable (replies : Nat → Reply)

/-- The exchanges with a server that has been asked `n` times. -/
def askedFrom (url : Url) (n last : Nat) : List Exchange :=
  (List.range (last + 1)).map fun i => ⟨.download url, replies (n + i)⟩

theorem askedFrom_succ (url : Url) (n last : Nat) :
    askedFrom replies url n (last + 1) =
      ⟨.download url, replies n⟩ :: askedFrom replies url (n + 1) last := by
  unfold askedFrom
  rw [List.range_succ_eq_map, List.map_cons, List.map_map]
  refine congrArg (_ :: ·) (List.map_congr_left fun i _ => ?_)
  have hshift : n + (i + 1) = n + 1 + i := by omega
  show (⟨.download url, replies (n + (i + 1))⟩ : Exchange) = _
  rw [hshift]

end

/-! ## Fetching -/

theorem fetch_zero_eq (url : Url) :
    fetch url 0 = .ask (.download url) fun r => .done (r.outcome url) := by
  rw [fetch, request_bind]
  refine congrArg (Program.ask _) (funext fun (r : Reply) => ?_)
  rw [r.verdict_eq url, Reply.outcome]
  cases r.delivered? with
  | some data => rfl
  | none => by_cases hretry : r.IsRetryable <;> simp [hretry] <;> rfl

theorem fetch_succ_eq (url : Url) (retries : Nat) :
    fetch url (retries + 1) = .ask (.download url) fun (r : Reply) =>
      if r.IsRetryable then fetch url retries else .done (r.outcome url) := by
  rw [fetch, request_bind]
  refine congrArg (Program.ask _) (funext fun (r : Reply) => ?_)
  rw [r.verdict_eq url]
  by_cases hretry : r.IsRetryable
  · simp [r.delivered?_of_isRetryable hretry, hretry]
  · rw [if_neg hretry, Reply.outcome]
    cases r.delivered? <;> simp [hretry] <;> rfl

section

variable (replies : Nat → Reply) (others : (r : Request) → r.Answer)

/-- However many attempts are left, they end as they should, and their last reply is the result. -/
theorem fetch_attempted (url : Url) (retries n : Nat) :
    ∃ last, Attempted retries (fun i => replies (n + i)) last ∧
      exchanges (answering replies others) (fetch url retries) n = askedFrom replies url n last ∧
      (run (answering replies others) (fetch url retries) n).1 =
        (replies (n + last)).outcome url := by
  induction retries generalizing n with
  | zero =>
    rw [fetch_zero_eq]
    exact ⟨0, ⟨Nat.le_refl 0, fun i hi => by omega, .inl rfl⟩, rfl, rfl⟩
  | succ retries ih =>
    have hasks : exchanges (answering replies others) (fetch url (retries + 1)) n =
        ⟨.download url, replies n⟩ :: exchanges (answering replies others)
          (if (replies n).IsRetryable then fetch url retries
            else .done ((replies n).outcome url)) (n + 1) := by
      rw [fetch_succ_eq]
      rfl
    have hruns : run (answering replies others) (fetch url (retries + 1)) n =
        run (answering replies others)
          (if (replies n).IsRetryable then fetch url retries
            else .done ((replies n).outcome url)) (n + 1) := by
      rw [fetch_succ_eq]
      rfl
    rw [hasks, hruns]
    by_cases hretry : (replies n).IsRetryable
    · obtain ⟨last, hattempted, hasked, hresult⟩ := ih (n + 1)
      rw [if_pos hretry, hasked, hresult, ← askedFrom_succ]
      have hshift : n + 1 + last = n + (last + 1) := by omega
      rw [hshift]
      refine ⟨last + 1, Attempted.next ?_ hretry, rfl, rfl⟩
      have hlater : (fun i => replies (n + (i + 1))) = fun i => replies (n + 1 + i) := by
        funext i
        exact congrArg replies (by omega)
      rwa [hlater]
    · rw [if_neg hretry]
      exact ⟨0, ⟨Nat.zero_le _, fun i hi => by omega, .inr hretry⟩, rfl, rfl⟩

end

/-! ## Verification -/

/-- The bytes, if they have the digest. -/
def ArtifactDigest.check (e : ArtifactDigest) (data : ByteArray) : Except ArtifactError ByteArray :=
  if e.algorithm.hexDigest data = e.hex then .ok data
  else .error (.digestMismatch e.text (e.algorithm.name ++ ":" ++ e.algorithm.hexDigest data))

theorem download_eq {url : Url} (hscheme : url.scheme ∈ downloadSchemes)
    (hhost : url.hasHost = true) (expected : ArtifactDigest) (retries : Nat) :
    download url expected retries =
      fetch url retries >>= fun answer => .done (answer >>= expected.check) := by
  have husable : (!downloadSchemes.contains url.scheme || !url.hasHost) = false := by
    simp [hscheme, hhost]
  unfold download
  rw [husable, if_neg Bool.false_ne_true]
  refine congrArg (fetch url retries >>= ·) (funext fun answer => ?_)
  cases answer with
  | error error => rfl
  | ok data =>
    show (if _ then _ else _ : Program (Except ArtifactError ByteArray)) =
      .done (expected.check data)
    unfold ArtifactDigest.check
    split <;> rfl

theorem download_of_scheme {url : Url} (hscheme : url.scheme ∉ downloadSchemes)
    (expected : ArtifactDigest) (retries : Nat) :
    download url expected retries = .done (.error (unusableScheme url)) := by
  have hunusable : (!downloadSchemes.contains url.scheme || !url.hasHost) = true := by
    simp [hscheme]
  unfold download
  rw [hunusable, if_pos rfl]
  rfl

section

variable {s : DownloadSettings} {w : Workspace} {a : Artifact} {path : String}

theorem fetchTemplate_of_digest {e : ArtifactError} (h : a.requiredDigest = .error e) :
    fetchTemplate s w a path = .done (.error e) := by
  rw [fetchTemplate, h]
  rfl

theorem fetchTemplate_of_url {expected : ArtifactDigest} {e : ArtifactError}
    (hdigest : a.requiredDigest = .ok expected) (h : s.downloadUrl a.url = .error e) :
    fetchTemplate s w a path = .done (.error e) := by
  simp only [fetchTemplate, hdigest, h]
  rfl

theorem fetchTemplate_of_download (w : Workspace) (path : String) {expected : ArtifactDigest}
    {url : Url} (hdigest : a.requiredDigest = .ok expected)
    (hurl : s.downloadUrl a.url = .ok url) :
    fetchTemplate s w a path = download url expected s.retries >>= fun answer =>
      .done (answer >>= (templateInArchive w · path)) := by
  simp only [fetchTemplate, hdigest, hurl]
  refine congrArg (download url expected s.retries >>= ·) (funext fun answer => ?_)
  cases answer <;> rfl

end

/-- What comes of an artifact that has a digest to check by and somebody to ask: `last` is the
place of the reply that decides. -/
structure Delivered (retries : Nat) (url : Url) (algorithm : Digest.Algorithm) (hex : String)
    (unpack : ByteArray → Except ArtifactError String) (replies : Nat → Reply)
    (asked : List Exchange) (result : Except ArtifactError String) (last : Nat) : Prop where
  asked : asked = (List.range (last + 1)).map fun i => ⟨.download url, replies i⟩
  decided : ∀ first, (∀ i < first, (replies i).IsRetryable) → ¬ (replies first).IsRetryable →
    last + 1 = min (first + 1) (retries + 1)
  exhausted : (∀ i ≤ retries, (replies i).IsRetryable) →
    last + 1 = retries + 1 ∧ result = .error ((replies retries).fault url)
  failed : (replies last).delivered? = none → result = .error ((replies last).fault url)
  mismatched : ∀ data, (replies last).delivered? = some data →
    algorithm.hexDigest data ≠ Text.toAsciiLower hex →
    result = .error (.digestMismatch (algorithm.name ++ ":" ++ Text.toAsciiLower hex)
      (algorithm.name ++ ":" ++ algorithm.hexDigest data))
  matched : ∀ data, (replies last).delivered? = some data →
    algorithm.hexDigest data = Text.toAsciiLower hex → result = unpack data

theorem delivered_of_fetch {retries : Nat} {url : Url} {algorithm : Digest.Algorithm} {hex : String}
    {unpack : ByteArray → Except ArtifactError String} {replies : Nat → Reply} {last : Nat}
    (h : Attempted retries replies last) :
    Delivered retries url algorithm hex unpack replies
      ((List.range (last + 1)).map fun i => ⟨.download url, replies i⟩)
      ((replies last).outcome url >>=
        (ArtifactDigest.mk algorithm (Text.toAsciiLower hex)).check >>= unpack) last where
  asked := rfl
  decided first hbefore hfirst := by
    have hlast := h.eq_min hbefore hfirst
    omega
  exhausted hall := by
    obtain rfl := h.eq_of_forall hall
    have hnone := Reply.delivered?_of_isRetryable (hall last (Nat.le_refl last))
    simp only [Reply.outcome, hnone, true_and]
    rfl
  failed hnone := by
    simp only [Reply.outcome, hnone]
    rfl
  mismatched data hdata hne := by
    simp only [Reply.outcome, hdata]
    show ArtifactDigest.check _ data >>= unpack = _
    rw [ArtifactDigest.check, if_neg hne]
    rfl
  matched data hdata heq := by
    simp only [Reply.outcome, hdata]
    show ArtifactDigest.check _ data >>= unpack = _
    rw [ArtifactDigest.check, if_pos heq]
    rfl

/-- Whatever the server replies, a template is loaded from advertised bytes only, by as many
attempts as its replies ask for; without a digest or an address there is none. -/
theorem fetchTemplate_delivers (s : DownloadSettings) (w : Workspace) (a : Artifact) (path : String)
    (replies : Nat → Reply) (others : (r : Request) → r.Answer) :
    let asked := exchanges (answering replies others) (fetchTemplate s w a path) 0
    let result := (run (answering replies others) (fetchTemplate s w a path) 0).1
    (∀ digest, a.digest = some digest → digest ≠ "" →
      (∀ (algorithm : Digest.Algorithm) hex, digest ≠ algorithm.name ++ ":" ++ hex) →
      asked = [] ∧ result = .error (.unsupportedDigest digest)) ∧
    (a.digest ∈ [none, some ""] → a.checksum ∈ [none, some ""] →
      asked = [] ∧ result = .error .missingDigest) ∧
    ∀ algorithm hex, a.Advertises algorithm hex →
      (∀ e, s.downloadUrl a.url = .error e → asked = [] ∧ result = .error e) ∧
      ∀ url, s.downloadUrl a.url = .ok url →
        (url.scheme ∉ ["http", "https"] → asked = [] ∧ result = .error (unusableScheme url)) ∧
        (url.scheme ∈ ["http", "https"] → ∃ last, Delivered s.retries url algorithm hex
          (templateInArchive w · path) replies asked result last) := by
  intro asked result
  have hdone : ∀ e, fetchTemplate s w a path = .done (.error e) →
      asked = [] ∧ result = .error e := by
    intro e he
    simp only [asked, result, he]
    exact ⟨rfl, rfl⟩
  refine ⟨fun digest hdigest hne hunusable => ?_, fun hdigest hchecksum => ?_,
    fun algorithm hex hadvertises => ?_⟩
  · have hrequired := Artifact.requiredDigest_of_unusable hdigest hne hunusable
    exact hdone _ (fetchTemplate_of_digest hrequired)
  · have hrequired := Artifact.requiredDigest_of_missing hdigest hchecksum
    exact hdone _ (fetchTemplate_of_digest hrequired)
  · have hrequired := Artifact.requiredDigest_of_advertises hadvertises
    refine ⟨fun e he => hdone e (fetchTemplate_of_url hrequired he), fun url hurl => ?_⟩
    have hload := fetchTemplate_of_download w path hrequired hurl
    refine ⟨fun hscheme => ?_, fun hscheme => ?_⟩
    · refine hdone _ ?_
      rw [hload, download_of_scheme hscheme]
      rfl
    · have hhost := DownloadSettings.hosted_of_downloadUrl hurl hscheme
      obtain ⟨last, hattempted, hasked, hresult⟩ :=
        fetch_attempted replies others url s.retries 0
      simp only [Nat.zero_add] at hattempted hresult
      refine ⟨last, ?_⟩
      have hasks : asked = (List.range (last + 1)).map fun i => ⟨.download url, replies i⟩ := by
        simp only [asked, hload, download_eq hscheme hhost, exchanges_bind, hasked, askedFrom,
          Nat.zero_add]
        simp [exchanges]
      have hends : result = ((replies last).outcome url >>=
          (ArtifactDigest.mk algorithm (Text.toAsciiLower hex)).check >>=
          (templateInArchive w · path)) := by
        simp only [result, hload, download_eq hscheme hhost, run_bind, hresult]
        rfl
      rw [hasks, hends]
      exact delivered_of_fetch hattempted

/-! ## A second attempt -/

namespace Sample

/-- Two more attempts than the operator of the samples makes. -/
def persistent : DownloadSettings := { operator.download with retries := 2 }

/-- The server is overloaded once. -/
def overloaded : Nat → Reply
  | 0 => .response 503 (.ok ByteArray.empty)
  | _ + 1 => .response 200 (.ok (archive "a"))

def answersElse (r : Request) : r.Answer := (World.answer r (World.ofNetwork default)).1

end Sample

open Sample in
theorem fetchTemplate_delivers_overloaded :
    exchanges (answering overloaded answersElse)
      (fetchTemplate persistent operator.workspace (artifact "a") object.spec.templatePath) 0 =
        [⟨.download url, overloaded 0⟩, ⟨.download url, overloaded 1⟩] ∧
    (run (answering overloaded answersElse)
      (fetchTemplate persistent operator.workspace (artifact "a") object.spec.templatePath) 0).1 =
        .ok "A" := by
  obtain ⟨-, -, hadvertised⟩ := fetchTemplate_delivers persistent operator.workspace (artifact "a")
    object.spec.templatePath overloaded answersElse
  have hurl : persistent.downloadUrl (artifact "a").url = .ok url := downloadUrl "a"
  obtain ⟨last, h⟩ := ((hadvertised _ _ (advertises_checksum "a")).2 url hurl).2 List.mem_cons_self
  have hlast : last + 1 = 2 := h.decided 1 (fun i hi => by
    obtain rfl : i = 0 := by omega
    simp [overloaded, Reply.IsRetryable]) (by simp [overloaded, Reply.IsRetryable])
  obtain rfl : last = 1 := by omega
  refine ⟨h.asked, ?_⟩
  rw [h.matched (archive "a") rfl (Digest.Algorithm.toAsciiLower_hexDigest _ _).symm]
  exact template "a"

end StackSync
