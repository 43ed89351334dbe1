import StackSync.Artifact.Download

/-!
# Somebody to ask

What can be downloaded has a host: a URL whose scheme is one of `downloadSchemes` is never read
without one (`hosted_of_parse`), and an override puts another host in its place, never none
(`hosted_of_downloadUrl`). So the only addresses that are given up before anything is asked for are
those of another scheme.

The readers are programs that may throw. `Ensures` says what holds of whatever they return, with
one rule for each way in which they are put together.
-/

namespace StackSync

/-! ## What a reader returns -/

/-- Whatever is returned is so. -/
def Ensures {ε α : Type} (x : Except ε α) (P : α → Prop) : Prop := ∀ a, x = .ok a → P a

namespace Ensures

variable {ε α β : Type} {P : α → Prop} {Q : β → Prop}

theorem pure {a : α} (h : P a) : Ensures (Pure.pure a : Except ε α) P := by
  intro b hb
  cases hb
  exact h

theorem bind {x : Except ε α} {f : α → Except ε β} (hx : Ensures x P)
    (hf : ∀ a, P a → Ensures (f a) Q) : Ensures (x >>= f) Q := by
  intro b hb
  cases x with
  | error e => cases hb
  | ok a => exact hf a (hx a rfl) b hb

theorem trivial (x : Except ε α) : Ensures x fun _ => True := fun _ _ => .intro

theorem mapError {ε' : Type} {x : Except ε α} {f : ε → ε'} (h : Ensures x P) :
    Ensures (x.mapError f) P := by
  intro a ha
  cases x with
  | error e => cases ha
  | ok b =>
    cases ha
    exact h _ rfl

theorem throw (e : ε) : Ensures (MonadExcept.throw e : Except ε α) P := fun a ha => by cases ha

/-- A program that throws, or goes on. -/
theorem guard {c : Prop} [Decidable c] {e : ε} {f : α → Except ε β} {x : Except ε β}
    (h : Ensures x Q) : Ensures (if c then MonadExcept.throw e >>= f else x) Q := by
  by_cases hc : c
  · rw [if_pos hc]
    intro b hb
    cases hb
  · rw [if_neg hc]
    exact h

end Ensures

namespace Url

theorem isSpecialScheme_of_mem {scheme : String} (h : scheme ∈ downloadSchemes) :
    isSpecialScheme scheme = true := by
  have hcases : scheme = "http" ∨ scheme = "https" := by simpa [downloadSchemes] using h
  rcases hcases with rfl | rfl <;> rfl

/-- A URL that could be downloaded from has a host. -/
def Hosted (u : Url) : Prop := u.scheme ∈ downloadSchemes → u.hasHost = true

theorem hasHost_of_host {u : Url} {h : Host} (hhost : u.host = some h) (hne : h.isEmpty = false) :
    u.hasHost = true := by
  simp [hasHost, hhost, hne]

/-! ## Hosts -/

theorem Host.bracketed?_ensures {s : List Char} {result : Except UrlError Host}
    (h : bracketed? s = some result) : Ensures result fun host => host.isEmpty = false := by
  unfold bracketed? at h
  intro host hok
  subst hok
  split at h
  · rw [Option.some.injEq] at h
    split at h
    · split at h
      · cases h
        rfl
      · cases h
    · cases h
  · cases h

/-- The host of a special scheme is an address or a domain, and neither is empty. -/
theorem Host.parseSpecial_ensures (s : List Char) :
    Ensures (parseSpecial s) fun host => host.isEmpty = false := by
  unfold parseSpecial
  split
  · next result hbracketed => exact bracketed?_ensures hbracketed
  · intro host h
    split at h
    · cases h
    · cases h
    · next domain hnonempty _ =>
      split at h
      · split at h
        · cases h
          rfl
        · cases h
      · cases h
        have hne : String.ofList domain ≠ "" := fun hempty =>
          hnonempty (by simpa using congrArg String.toList hempty)
        simp [Host.isEmpty, hne]

/-! ## Reading -/

theorem readAuthority_ensures (scheme : String) (authority : List Char) (hasMore : Bool) :
    Ensures (readAuthority scheme authority hasMore) fun x => x.1.scheme = scheme ∧
      (isSpecialScheme scheme = true → x.1.hasHost = true) := by
  unfold readAuthority
  dsimp only
  refine .guard (.guard ?_)
  split
  · refine .bind (Host.parseSpecial_ensures _) fun host hne => ?_
    refine .guard (.bind (.trivial _) fun port _ => .guard (.pure ?_))
    exact ⟨rfl, fun _ => hasHost_of_host rfl hne⟩
  · next hplain =>
    refine .bind (.trivial _) fun host _ => ?_
    refine .guard (.bind (.trivial _) fun port _ => .guard (.pure ?_))
    exact ⟨rfl, fun hspecial => absurd hspecial hplain⟩

theorem parseAuthority_ensures (scheme : String) (s : List Char) :
    Ensures (parseAuthority scheme s) fun u => u.scheme = scheme ∧
      (isSpecialScheme scheme = true → u.hasHost = true) := by
  unfold parseAuthority
  dsimp only
  exact .bind (readAuthority_ensures scheme _ _) fun x hx => .pure hx

theorem parseFile_ensures (s : List Char) : Ensures (parseFile s) fun u => u.scheme = "file" := by
  unfold parseFile
  dsimp only
  split
  · split
    · split
      · exact .pure rfl
      · exact .bind (.trivial _) fun host _ => .pure rfl
    · exact .pure rfl
  · exact .pure rfl

theorem parsePlainScheme_ensures (scheme : String) (s : List Char) :
    Ensures (parsePlainScheme scheme s) fun u => u.scheme = scheme := by
  unfold parsePlainScheme
  split
  · exact fun u hu => (parseAuthority_ensures scheme _ u hu).1
  · exact .pure rfl

/-- A special scheme is read with a host, and no other one is downloaded by. -/
theorem hosted_of_parse {raw : String} {u : Url} (h : parse raw = .ok u) : u.Hosted := by
  intro hscheme
  unfold parse at h
  split at h
  · cases h
  · have hfile := parseFile_ensures _ u h
    rw [hfile] at hscheme
    simp [downloadSchemes] at hscheme
  · next scheme rest _ _ =>
    split at h
    · next hspecial => exact (parseAuthority_ensures scheme _ u h).2 hspecial
    · next hplain =>
      rw [parsePlainScheme_ensures scheme _ u h] at hscheme
      exact absurd (isSpecialScheme_of_mem hscheme) hplain

/-! ## Overrides -/

/-- A special URL gets a host that is not empty; any other one is none to download from. -/
theorem withHost_ensures (u : Url) (host : List Char) : Ensures (u.withHost host) Hosted := by
  have hnamed : ∀ (name : List Char) (path : Path),
      Ensures (if isSpecialScheme u.scheme = true then do
          let parsed ← Host.parseSpecial name
          return { u with host := some parsed, path }
        else do
          let parsed ← Host.parsePlain name
          return { u with host := some parsed, path }) Hosted := by
    intro name path
    by_cases hspecial : isSpecialScheme u.scheme = true
    · rw [if_pos hspecial]
      refine .bind (Host.parseSpecial_ensures name) fun parsed hne => .pure fun _ => ?_
      exact hasHost_of_host rfl hne
    · rw [if_neg hspecial]
      refine .bind (.trivial _) fun parsed _ => .pure fun hscheme => ?_
      exact absurd (isSpecialScheme_of_mem hscheme) hspecial
  unfold withHost
  split
  · exact .throw _
  · dsimp only
    refine .guard ?_
    split
    · exact hnamed _ _
    · split
      · exact .bind (.throw _) fun name (_ : True) => hnamed name _
      · exact hnamed _ _
      · exact hnamed _ _

theorem hosted_of_withPort? {u v : Url} {port : Option Nat} (hu : u.Hosted)
    (h : u.withPort? port = some v) : v.Hosted := by
  unfold withPort? at h
  split at h
  · cases h
  · cases h
    exact hu

end Url

/-- Whatever an artifact is downloaded from by HTTP has a host. -/
theorem DownloadSettings.hosted_of_downloadUrl {s : DownloadSettings} {raw : String} {url : Url}
    (h : s.downloadUrl raw = .ok url) : url.Hosted := by
  refine Ensures.bind (.mapError fun u hu => Url.hosted_of_parse hu) (fun u hu => ?_) url h
  dsimp only
  split
  · exact .pure hu
  · split
    · exact .throw _
    · refine .bind (.mapError (u.withHost_ensures _)) fun moved hmoved => ?_
      split
      · next resolved hport => exact .pure (Url.hosted_of_withPort? hmoved hport)
      · exact .throw _

end StackSync
