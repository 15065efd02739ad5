import SaasKit.Models

/-!
# Rate limits and the client behind the proxy

The throttles count requests under a key: the user, or what DRF's `get_ident`
takes for the client. Behind the repository's nginx that is the
`X-Forwarded-For` header as a whole, which starts with whatever the client
has sent. The address that nginx appends tells two clients apart; what comes
before it splits one client over as many keys as it likes
(`follows_client_iff`). The ids of users and addresses never meet under one
key.
-/

namespace SaasKit

namespace Throttling

/-! ## Requests -/

/-- The address of a peer, as nginx writes it: IPv4 or IPv6. -/
structure PeerAddress where
  text : String
  plain : ∀ c ∈ text.toList, isSpace c = false ∧ c ≠ ','
  marked : ∃ c ∈ text.toList, c = '.' ∨ c = ':'

/-- A request as it reaches nginx. -/
structure Incoming where
  peer : PeerAddress
  /-- `X-Forwarded-For`, if the client sends one. -/
  forwardedFor : Option String
  /-- `request.user`, `none` for an anonymous one. -/
  user : Option User

/-- What Django reads of the connection (`request.META`). -/
structure Meta where
  httpXForwardedFor : Option String
  remoteAddr : String

/-- `$proxy_add_x_forwarded_for`. -/
def proxyAddXForwardedFor (r : Incoming) : String :=
  match r.forwardedFor with
  | none => r.peer.text
  | some sent => sent ++ ", " ++ r.peer.text

/-- `infra/nginx/nginx.conf`: the peer of Django is the proxy. -/
def nginx (proxy : String) (r : Incoming) : Meta :=
  ⟨some (proxyAddXForwardedFor r), proxy⟩

/-! ## Keys -/

/-- `"".join(s.split())`. -/
def squeeze (s : String) : String := String.ofList (s.toList.filter fun c => !isSpace c)

/-- `SimpleRateThrottle.get_ident`, where `NUM_PROXIES` is unset. -/
def getIdent (m : Meta) : String :=
  match m.httpXForwardedFor with
  | some xff => if xff != "" then squeeze xff else m.remoteAddr
  | none => m.remoteAddr

/-- `SimpleRateThrottle.cache_format`. -/
def cacheFormat (scope ident : String) : String := "throttle_" ++ scope ++ "_" ++ ident

def AnonRateThrottle.getCacheKey (user : Option User) (m : Meta) : Option String :=
  match user with
  | some _ => none
  | none => some (cacheFormat "anon" (getIdent m))

def UserRateThrottle.getCacheKey (user : Option User) (m : Meta) : Option String :=
  match user with
  | some user => some (cacheFormat "user" (toString user.pk))
  | none => some (cacheFormat "user" (getIdent m))

def anonKey (proxy : String) (r : Incoming) : Option String :=
  AnonRateThrottle.getCacheKey r.user (nginx proxy r)

def userKey (proxy : String) (r : Incoming) : Option String :=
  UserRateThrottle.getCacheKey r.user (nginx proxy r)

/-! ## Whom the keys follow -/

/-- Anonymous requests share their keys exactly with those of the same peer,
and an authenticated user shares one with nobody. -/
structure FollowsClient (proxy : String) (r₁ r₂ : Incoming) : Prop where
  anon : r₁.user = none → r₂.user = none →
    (anonKey proxy r₁ = anonKey proxy r₂ ↔ r₁.peer.text = r₂.peer.text)
  user : r₁.user = none → r₂.user = none →
    (userKey proxy r₁ = userKey proxy r₂ ↔ r₁.peer.text = r₂.peer.text)
  own : ∀ u, r₁.user = some u → userKey proxy r₁ = userKey proxy r₂ →
    ∃ u', r₂.user = some u' ∧ u'.pk = u.pk

section

variable {proxy : String} {r₁ r₂ : Incoming}

/-- What comes after the last comma. -/
theorem eq_of_append_comma {a b p q : List Char} (hp : ',' ∉ p) (hq : ',' ∉ q)
    (h : a ++ ',' :: p = b ++ ',' :: q) : a = b ∧ p = q := by
  rcases List.append_eq_append_iff.mp h with ⟨t, rfl, htail⟩ | ⟨t, rfl, htail⟩
  · cases t with
    | nil => exact ⟨(List.append_nil a).symm, (List.cons.inj htail).2⟩
    | cons c t =>
        obtain ⟨-, rfl⟩ := List.cons.inj htail
        exact absurd (by simp) hp
  · cases t with
    | nil => exact ⟨List.append_nil b, (List.cons.inj htail).2.symm⟩
    | cons c t =>
        obtain ⟨-, rfl⟩ := List.cons.inj htail
        exact absurd (by simp) hq

theorem PeerAddress.no_comma (peer : PeerAddress) : ',' ∉ peer.text.toList :=
  fun h => (peer.plain ',' h).2 rfl

theorem PeerAddress.text_ne (peer : PeerAddress) : peer.text ≠ "" := by
  obtain ⟨c, hc, -⟩ := peer.marked
  intro hempty
  rw [hempty] at hc
  cases hc

theorem PeerAddress.squeeze_eq (peer : PeerAddress) :
    peer.text.toList.filter (fun c => !isSpace c) = peer.text.toList :=
  List.filter_eq_self.mpr fun c hc => by rw [(peer.plain c hc).1]; rfl

/-- The header after the proxy, without its whitespace. -/
theorem getIdent_nginx (proxy : String) (r : Incoming) :
    (getIdent (nginx proxy r)).toList =
      match r.forwardedFor with
      | none => r.peer.text.toList
      | some sent => (squeeze sent).toList ++ ',' :: r.peer.text.toList := by
  have hne : proxyAddXForwardedFor r ≠ "" := by
    unfold proxyAddXForwardedFor
    split
    · exact r.peer.text_ne
    · exact fun hempty => r.peer.text_ne (String.append_eq_empty_iff.mp hempty).2
  have hident : getIdent (nginx proxy r) = squeeze (proxyAddXForwardedFor r) := by
    simp only [getIdent, nginx, bne_iff_ne.mpr hne, if_true]
  rw [hident]
  unfold squeeze proxyAddXForwardedFor
  rw [String.toList_ofList]
  split
  · exact r.peer.squeeze_eq
  · simp only [String.toList_append, String.toList_ofList, List.filter_append, r.peer.squeeze_eq,
      List.append_assoc]
    rfl

/-- Two requests have one identity if they have one peer and the client has
sent the same header, up to whitespace. -/
theorem getIdent_eq_iff :
    getIdent (nginx proxy r₁) = getIdent (nginx proxy r₂) ↔
      r₁.peer.text = r₂.peer.text
        ∧ r₁.forwardedFor.map squeeze = r₂.forwardedFor.map squeeze := by
  rw [← String.toList_inj, getIdent_nginx, getIdent_nginx, ← String.toList_inj]
  cases h₁ : r₁.forwardedFor with
  | none =>
      cases h₂ : r₂.forwardedFor with
      | none => simp
      | some sent =>
          have hne : r₁.peer.text.toList ≠
              (squeeze sent).toList ++ ',' :: r₂.peer.text.toList :=
            fun h => r₁.peer.no_comma (by rw [h]; simp)
          simp [hne]
  | some sent =>
      cases h₂ : r₂.forwardedFor with
      | none =>
          have hne : (squeeze sent).toList ++ ',' :: r₁.peer.text.toList ≠
              r₂.peer.text.toList := fun h => r₂.peer.no_comma (by rw [← h]; simp)
          simp [hne]
      | some sent' =>
          simp only [Option.map_some, Option.some.injEq]
          constructor
          · intro h
            obtain ⟨hsent, hpeer⟩ := eq_of_append_comma r₁.peer.no_comma r₂.peer.no_comma h
            exact ⟨hpeer, String.toList_inj.mp hsent⟩
          · rintro ⟨hpeer, hsent⟩
            rw [hpeer, hsent]

theorem cacheFormat_inj {scope a b : String} (h : cacheFormat scope a = cacheFormat scope b) :
    a = b :=
  (String.append_right_inj _).mp h

/-- No address is the id of a user. -/
theorem toString_ne_getIdent (pk : UserId) (r : Incoming) :
    toString pk ≠ getIdent (nginx proxy r) := by
  intro h
  obtain ⟨c, hc, hmark⟩ := r.peer.marked
  have hmem : c ∈ (getIdent (nginx proxy r)).toList := by
    rw [getIdent_nginx]
    split
    · exact hc
    · exact List.mem_append_right _ (List.mem_cons_of_mem _ hc)
  rw [← h] at hmem
  have hdigit := isDigit_of_mem_toString hmem
  rcases hmark with rfl | rfl <;> exact absurd hdigit (by decide)

theorem userKey_own {u : User} (hu : r₁.user = some u)
    (hkey : userKey proxy r₁ = userKey proxy r₂) : ∃ u', r₂.user = some u' ∧ u'.pk = u.pk := by
  simp only [userKey, UserRateThrottle.getCacheKey, hu] at hkey
  cases hu₂ : r₂.user with
  | none =>
      rw [hu₂] at hkey
      exact absurd (cacheFormat_inj (Option.some.inj hkey)) (toString_ne_getIdent u.pk r₂)
  | some u' =>
      rw [hu₂] at hkey
      exact ⟨u', rfl, (toString_nat_inj (cacheFormat_inj (Option.some.inj hkey))).symm⟩

theorem anonKey_eq_iff (h₁ : r₁.user = none) (h₂ : r₂.user = none) :
    anonKey proxy r₁ = anonKey proxy r₂ ↔
      getIdent (nginx proxy r₁) = getIdent (nginx proxy r₂) := by
  simp only [anonKey, AnonRateThrottle.getCacheKey, h₁, h₂, Option.some.injEq]
  exact ⟨cacheFormat_inj, fun h => by rw [h]⟩

theorem userKey_eq_iff (h₁ : r₁.user = none) (h₂ : r₂.user = none) :
    userKey proxy r₁ = userKey proxy r₂ ↔
      getIdent (nginx proxy r₁) = getIdent (nginx proxy r₂) := by
  simp only [userKey, UserRateThrottle.getCacheKey, h₁, h₂, Option.some.injEq]
  exact ⟨cacheFormat_inj, fun h => by rw [h]⟩

/-- The keys follow the client exactly if anonymous requests of one peer have
sent one header, up to whitespace. -/
theorem follows_client_iff (proxy : String) (r₁ r₂ : Incoming) :
    FollowsClient proxy r₁ r₂ ↔
      (r₁.user = none → r₂.user = none → r₁.peer.text = r₂.peer.text →
        r₁.forwardedFor.map squeeze = r₂.forwardedFor.map squeeze) := by
  constructor
  · intro h h₁ h₂ hpeer
    have hkey := (h.anon h₁ h₂).mpr hpeer
    exact (getIdent_eq_iff.mp ((anonKey_eq_iff h₁ h₂).mp hkey)).2
  · intro hsent
    have hident : r₁.user = none → r₂.user = none →
        (getIdent (nginx proxy r₁) = getIdent (nginx proxy r₂)
          ↔ r₁.peer.text = r₂.peer.text) := by
      intro h₁ h₂
      rw [getIdent_eq_iff]
      exact and_iff_left_of_imp (hsent h₁ h₂)
    exact ⟨fun h₁ h₂ => (anonKey_eq_iff h₁ h₂).trans (hident h₁ h₂),
      fun h₁ h₂ => (userKey_eq_iff h₁ h₂).trans (hident h₁ h₂), fun _ hu => userKey_own hu⟩

end

/-! ## One client, two keys -/

def client : PeerAddress := ⟨"203.0.113.7", by simp [isSpace], by simp⟩

/-- The client calls twice and makes up a header for the second call. -/
theorem forged_header_splits :
    ¬ FollowsClient "172.18.0.5" ⟨client, none, none⟩ ⟨client, some "198.51.100.1", none⟩ := by
  intro h
  have hkeys := (h.anon rfl rfl).mpr rfl
  revert hkeys
  decide

end Throttling

end SaasKit
