import SaasKit.MailAddresses
import SaasKit.RoleMap

/-!
# Where an invitation link leads

`send_invitation` writes the row, hands the link to the broker with the
address, the role and the tenant's name, and forgets it; the worker mails it
whenever it gets to it. Meanwhile the row is accepted, revoked, runs out or
loses its sender, but its token, address, tenant and role stay. So, whenever
the mail goes out, it goes to the invited address alone and its link is that
of the row, with the role the row grants (`links_lead_home`).
-/

namespace SaasKit

namespace InvitationLinks

open InvitationService RBACService Worker

/-! ## Links -/

def acceptUrl (settings : Settings) (inv : TenantInvitation) : String :=
  settings.frontendUrl ++ "/invitations/" ++ inv.token ++ "/accept"

/-- The columns of a row that nothing writes again. -/
structure SameLink (inv inv' : TenantInvitation) : Prop where
  id : inv'.id = inv.id
  tenant : inv'.tenant = inv.tenant
  email : inv'.email = inv.email
  role : inv'.role = inv.role
  token : inv'.token = inv.token

/-- No row is lost, or changed in what its link is about. -/
def Keeps (s s' : Site) : Prop := ∀ inv ∈ s.invitations, ∃ inv' ∈ s'.invitations, SameLink inv inv'

/-- A message that carries a link carries that of a row, for its address. -/
def Linked (settings : Settings) (s : Site) : Message → Prop
  | .task (.sendInvitationEmail recipientEmail _ _ role url) =>
      ∃ inv ∈ s.invitations, recipientEmail = inv.email ∧ role = inv.role.value
        ∧ url = acceptUrl settings inv
  | _ => True

/-- What a request may do: keep the rows, and hand over no link but that of a
row. -/
structure Follows (settings : Settings) (s s' : AccountSite) : Prop where
  keeps : Keeps s.toSite s'.toSite
  linked : ∀ m ∈ handed s s', Linked settings s'.toSite m

section

variable {settings : Settings} {s s' : Site} {m : Message}

theorem Keeps.of_eq (h : s'.invitations = s.invitations) : Keeps s s' :=
  fun inv hinv => ⟨inv, h ▸ hinv, rfl, rfl, rfl, rfl, rfl⟩

/-- A rewriting that leaves these columns alone. -/
theorem Keeps.modify {p : TenantInvitation → Bool} {f : Table.Rewrite TenantInvitation.clash}
    (h : s'.invitations = s.invitations.modify p f) (hf : ∀ inv, SameLink inv (f.apply inv)) :
    Keeps s s' := by
  intro inv hinv
  refine ⟨_, h ▸ Table.mem_modify.mpr ⟨inv, hinv, rfl⟩, ?_⟩
  split
  · exact hf inv
  · exact ⟨rfl, rfl, rfl, rfl, rfl⟩

theorem Keeps.trans {s₁ : Site} (h : Keeps s s₁) (h' : Keeps s₁ s') : Keeps s s' := by
  intro inv hinv
  obtain ⟨inv₁, hinv₁, h₁⟩ := h inv hinv
  obtain ⟨inv₂, hinv₂, h₂⟩ := h' inv₁ hinv₁
  exact ⟨inv₂, hinv₂, h₂.id.trans h₁.id, h₂.tenant.trans h₁.tenant, h₂.email.trans h₁.email,
    h₂.role.trans h₁.role, h₂.token.trans h₁.token⟩

theorem Linked.keep (hm : Linked settings s m) (h : Keeps s s') : Linked settings s' m := by
  cases m with
  | task t =>
      cases t with
      | sendInvitationEmail recipientEmail tenantName invitedByName role url =>
          obtain ⟨inv, hinv, hemail, hrole, hurl⟩ := hm
          obtain ⟨inv', hinv', hsame⟩ := h inv hinv
          refine ⟨inv', hinv', hemail.trans hsame.email.symm, ?_, ?_⟩
          · rw [hsame.role]
            exact hrole
          · rw [hurl, acceptUrl, acceptUrl, hsame.token]
      | _ => trivial
  | _ => trivial

/-! ## What the services do -/

/-- A new invitation is mailed its own link, or nothing is. -/
theorem sendInvitation_follows (settings : Settings) (call : Call) (s : Site) (tenant : Tenant)
    (email role : String) (invitedBy : User) :
    Keeps s (sendInvitation settings call s tenant email role invitedBy).2
      ∧ ∃ tasks, (sendInvitation settings call s tenant email role invitedBy).2.queue
          = s.queue ++ tasks
        ∧ ∀ t ∈ tasks, Linked settings
            (sendInvitation settings call s tenant email role invitedBy).2 (.task t) := by
  have hnothing : Keeps s s ∧ ∃ tasks, s.queue = s.queue ++ tasks
      ∧ ∀ t ∈ tasks, Linked settings s (.task t) :=
    ⟨.of_eq rfl, [], (List.append_nil _).symm, fun _ ht => absurd ht List.not_mem_nil⟩
  unfold sendInvitation
  simp only
  split
  · exact hnothing
  · rename_i r hr
    split
    · exact hnothing
    · split
      · exact hnothing
      · split
        · exact hnothing
        · split
          · exact hnothing
          · rename_i hcreate
            obtain ⟨invitations, hinsert, rfl⟩ := createInvitation_ok hcreate
            have hkeeps : ∀ queue, Keeps s { s with invitations, queue } := fun queue inv hinv =>
              ⟨inv, (Table.mem_insert? hinsert).mpr (Or.inl hinv), rfl, rfl, rfl, rfl, rfl⟩
            unfold dispatchEmail
            cases call.brokerUp with
            | false =>
                exact ⟨hkeeps _, [], (List.append_nil _).symm,
                  fun _ ht => absurd ht List.not_mem_nil⟩
            | true =>
                refine ⟨hkeeps _, [_], rfl, fun t ht => ?_⟩
                obtain rfl := List.mem_singleton.mp ht
                exact ⟨_, (Table.mem_insert? hinsert).mpr (Or.inr rfl), rfl, rfl, rfl⟩

theorem saveInvitation_keeps {id : UUID} {status : InvitationStatus} :
    Keeps s (saveInvitation s id (setStatus status)) :=
  .modify rfl fun _ => ⟨rfl, rfl, rfl, rfl, rfl⟩

theorem acceptInvitation_keeps (s : Site) (now : Time) (token : String) (user : User) :
    Keeps s (acceptInvitation s now token user).2 := by
  cases hgrants : grants? s now token user with
  | none =>
      rcases (acceptInvitation_of_not hgrants).2 with hsame | ⟨inv, tenant, -, -, -, hexpired⟩
      · rw [hsame]
        exact .of_eq rfl
      · rw [hexpired]
        exact saveInvitation_keeps
  | some inv =>
      obtain ⟨-, -, hinvitations, -⟩ := acceptInvitation_of_grants hgrants
      exact .modify hinvitations fun _ => ⟨rfl, rfl, rfl, rfl, rfl⟩

theorem revokeInvitation_keeps (s : Site) (invitationId : UUID) (tenant : Tenant)
    (revokedBy : User) : Keeps s (revokeInvitation s invitationId tenant revokedBy).2 := by
  rcases revokeInvitation_cases s invitationId tenant revokedBy with
    ⟨hsame, -⟩ | ⟨inv, -, -, -, -, -, hinvitations, -⟩
  · rw [hsame]
    exact .of_eq rfl
  · exact .modify hinvitations fun _ => ⟨rfl, rfl, rfl, rfl, rfl⟩

end

section

variable {services : AuditTrail.Backends} {str : Json → String} {cfg : MailConfig} {a : Attempt}
  {s s' : AccountSite} {cache : IdempotencyService.Cache String} {w w' : Worker} {m : Message}
  {i : Nat}

theorem Follows.aside (hsame : s'.invitations = s.invitations)
    (hnone : ∀ m ∈ handed s s', ∀ settings site, Linked settings site m) {settings : Settings} :
    Follows settings s s' :=
  ⟨.of_eq hsame, fun m hm => hnone m hm settings s'.toSite⟩

/-- Keeping the rows and handing over nothing. -/
theorem Follows.quiet {settings : Settings} (hkeeps : Keeps s.toSite s'.toSite)
    (hqueue : s'.queue = s.queue) : Follows settings s s' := by
  refine ⟨hkeeps, fun m hm => ?_⟩
  rw [handed_same hqueue] at hm
  cases hm

theorem hardDelete_keeps (s : AccountSite) (user : User) :
    Keeps s.toSite (GDPRService.hardDelete s user).2.toSite := by
  have hinvited : Keeps s.toSite
      { s.toSite with
        invitations := s.invitations.modify (·.invitedBy == some user.pk)
          AccountSite.clearInvitedBy } := .modify rfl fun _ => ⟨rfl, rfl, rfl, rfl, rfl⟩
  exact hinvited.trans (.modify rfl fun _ => ⟨rfl, rfl, rfl, rfl, rfl⟩)

theorem anonymize_invitations (s : AccountSite) (user : User) (draw : Placeholder) :
    (GDPRService.anonymize s user draw).2.invitations = s.invitations := by
  unfold GDPRService.anonymize
  simp only
  split
  · rfl
  · rename_i hsave
    obtain ⟨users, hkeep, -, rfl⟩ := GDPRService.saveUser_ok hsave
    rfl

theorem post_invitations (reset : ResetConfig) (s : AccountSite) (now : Time) (data : Json) :
    (PasswordResetConfirmView.post reset s now data).2.invitations = s.invitations := by
  rcases PasswordResetConfirmView.post_cases reset s now data with ⟨-, hsame⟩ | ⟨_, _, hdone⟩
  · rw [hsame]
  · rw [hdone]
    rfl

/-- What an event hands over is a dunning mail. -/
theorem processEvent_follows {settings : Settings} {e : StripeEvent}
    (hsite : s'.toSite = (BillingService.processEvent str s.toSite e).2) :
    Follows settings s s' := by
  have hsame : s'.invitations = s.invitations := by
    rw [hsite]
    exact (BillingService.processEvent_frame ..).invitations
  rcases processEvent_hands str s.toSite e with hqueue | ⟨tenantId, hqueue⟩
  · exact .quiet (.of_eq hsame) (by rw [hsite]; exact hqueue)
  · refine .aside hsame fun m hm settings site => ?_
    rw [handed_append (by rw [hsite]; exact hqueue)] at hm
    obtain rfl := List.mem_singleton.mp hm
    trivial

/-- The services do no more. -/
theorem services_follow (services : AuditTrail.Backends) (s : AccountSite) (op : AuditTrail.Op) :
    Follows services.settings s (AuditTrail.perform services s op) := by
  cases op with
  | sendInvitation call tenant email role invitedBy =>
      obtain ⟨hkeeps, tasks, hqueue, hlinked⟩ :=
        sendInvitation_follows services.settings call s.toSite tenant email role invitedBy
      refine ⟨hkeeps, fun m hm => ?_⟩
      rw [handed_append hqueue] at hm
      obtain ⟨t, ht, rfl⟩ := List.mem_map.mp hm
      exact hlinked t ht
  | acceptInvitation now token user =>
      exact .quiet (acceptInvitation_keeps s.toSite now token user) (acceptInvitation_queue ..)
  | revokeInvitation invitationId tenant revokedBy =>
      exact .quiet (revokeInvitation_keeps s.toSite invitationId tenant revokedBy)
        (revokeInvitation_queue ..)
  | assignRole user tenant role assignedBy =>
      exact .quiet (.of_eq RBACService.assignRole_frame.invitations)
        RBACService.assignRole_frame.queue
  | revokeRole user tenant =>
      exact .quiet (.of_eq RBACService.revokeRole_frame.invitations)
        RBACService.revokeRole_frame.queue
  | anonymize user draw =>
      exact .quiet (.of_eq (anonymize_invitations ..)) (anonymize_queue ..)
  | hardDelete user => exact .quiet (hardDelete_keeps s user) rfl
  | confirmReset now data =>
      exact .quiet (.of_eq (post_invitations ..)) (confirmReset_queue ..)
  | processEvent e => exact processEvent_follows rfl

/-! ## The mail -/

/-- The mail of an invitation task goes to its address and shows its link. -/
def Delivers (m : Message) (mail : Mail) : Prop :=
  match m with
  | .task (.sendInvitationEmail recipientEmail _ _ _ url) =>
      mail.recipients = [recipientEmail] ∧ ∃ before after, mail.body = before ++ url ++ after
  | _ => True

theorem perform_delivers {mail : Mail}
    (h : (perform str cfg a s cache m).1.mail = some mail) : Delivers m mail := by
  cases m with
  | task t =>
      cases t with
      | sendInvitationEmail recipientEmail tenantName invitedByName role url =>
          simp only [perform, Tasks.sendInvitationEmail] at h
          split at h
          · cases h
          · obtain rfl := MailAddresses.sendMail_mail h
            exact ⟨rfl, _, _, rfl⟩
      | _ => trivial
  | _ => trivial

/-- A task changes no invitation, and hands over no link. -/
theorem perform_follows (settings : Settings) :
    Follows settings s (perform str cfg a s cache m).2.1 := by
  cases m with
  | task t =>
      cases t with
      | handleStripeEvent eventId eventType eventData =>
          exact processEvent_follows (handleStripeEvent_site str a s.toSite eventId eventType
            eventData)
      | _ => exact .quiet (.of_eq rfl) rfl
  | _ => exact .quiet (.of_eq rfl) rfl

/-! ## Any run -/

/-- A request is a call of one of the services, or is about something else. -/
def Requested (services : AuditTrail.Backends) (w : Worker) : Label → Prop
  | .request accounts =>
      (∃ op, accounts = AuditTrail.perform services w.accounts op)
        ∨ accounts.invitations = w.accounts.invitations
          ∧ ∀ m ∈ handed w.accounts accounts, ∀ recipientEmail tenantName invitedByName role url,
            m ≠ .task (.sendInvitationEmail recipientEmail tenantName invitedByName role url)
  | _ => True

/-- All links on the way are those of rows, and so are those that are out. -/
structure InOrder (settings : Settings) (w : Worker) : Prop where
  waiting : w.broker.All (Linked settings w.accounts.toSite)
  sent : ∀ x ∈ w.outbox, Linked settings w.accounts.toSite x.message ∧ Delivers x.message x.mail

theorem InOrder.follow {settings : Settings} {accounts : AccountSite} (hw : InOrder settings w)
    (h : Follows settings w.accounts accounts) :
    (w.broker.publish (handed w.accounts accounts)).All (Linked settings accounts.toSite)
      ∧ ∀ x ∈ w.outbox, Linked settings accounts.toSite x.message ∧ Delivers x.message x.mail :=
  ⟨(hw.waiting.mono fun _ hm => hm.keep h.keeps).publish h.linked,
    fun x hx => ⟨(hw.sent x hx).1.keep h.keeps, (hw.sent x hx).2⟩⟩

theorem linked_of_ne {settings : Settings} {site : Site}
    (h : ∀ recipientEmail tenantName invitedByName role url,
      m ≠ .task (.sendInvitationEmail recipientEmail tenantName invitedByName role url)) :
    Linked settings site m := by
  cases m with
  | task t =>
      cases t with
      | sendInvitationEmail recipientEmail tenantName invitedByName role url =>
          exact absurd rfl (h recipientEmail tenantName invitedByName role url)
      | _ => trivial
  | _ => trivial

theorem inOrder_attempt {settings : Settings} (hw : InOrder settings w)
    (hi : i < w.broker.pending.length) : InOrder settings (w.attempt str cfg i a) := by
  obtain ⟨m, retries, hi⟩ := pending_of_lt hi
  have hm : Linked settings w.accounts.toSite m := hw.waiting (m, retries) (List.mem_of_getElem? hi)
  have hfollows := @perform_follows str cfg a w.accounts w.cache m settings
  rw [attempt_eq hi]
  refine ⟨?_, fun x hx => ?_⟩
  · exact ((hw.waiting.settle maxRetries i _).mono fun _ h =>
      h.keep hfollows.keeps).publish hfollows.linked
  · rcases List.mem_append.mp hx with hx | hx
    · exact ⟨(hw.sent x hx).1.keep hfollows.keeps, (hw.sent x hx).2⟩
    · obtain ⟨mail, hmail, rfl⟩ := List.mem_map.mp hx
      exact ⟨hm.keep hfollows.keeps, perform_delivers (Option.mem_toList.mp hmail)⟩

theorem inOrder_step {l : Label} (hw : InOrder services.settings w)
    (h : Lts.Guarded (Step str cfg) (Requested services) w l w') :
    InOrder services.settings w' := by
  obtain ⟨⟨hadmissible, rfl⟩, hrequested⟩ := h
  cases l with
  | request accounts =>
      have hfollows : Follows services.settings w.accounts accounts := by
        rcases hrequested with ⟨op, rfl⟩ | ⟨hsame, hnone⟩
        · exact services_follow services w.accounts op
        · exact .aside hsame fun m hm _ _ => linked_of_ne (hnone m hm)
      exact ⟨(hw.follow hfollows).1, (hw.follow hfollows).2⟩
  | call m =>
      refine ⟨hw.waiting.publish fun m' hm' => ?_, hw.sent⟩
      obtain rfl := List.mem_singleton.mp hm'
      refine linked_of_ne fun _ _ _ _ _ heq => ?_
      rw [heq] at hadmissible
      cases hadmissible
  | redeliver i => exact ⟨hw.waiting.redeliver i, hw.sent⟩
  | attempt i a => exact inOrder_attempt hw hadmissible

/-- Accepting by the token of a row grants what the row says. -/
theorem acceptInvitation_grants {s : Site} {now : Time} {user : User}
    {inv inv' : TenantInvitation} (hinv : inv ∈ s.invitations)
    (h : (acceptInvitation s now inv.token user).1 = .ok inv') :
    inv'.id = inv.id ∧ ∀ tenant : Tenant, tenant.id = inv.tenant →
      getRole (acceptInvitation s now inv.token user).2 user tenant = some inv.role := by
  cases hgrants : grants? s now inv.token user with
  | none =>
      obtain ⟨⟨e, hraised⟩, -⟩ := acceptInvitation_of_not hgrants
      rw [hraised] at h
      cases h
  | some found =>
      obtain ⟨hfound, htoken, -⟩ := grants?_some hgrants
      obtain rfl : found = inv := Table.eq_of_clash invitation_clash_symm hfound hinv
        (by simp [TenantInvitation.clash, htoken])
      obtain ⟨hres, hroles, -⟩ := acceptInvitation_of_grants hgrants
      rw [h] at hres
      refine ⟨by rw [Except.ok.inj hres], fun tenant htenant => ?_⟩
      have hrole := @RoleMap.roleAt_put s _ (user.pk, tenant.id) (grantedRow s found user)
        (user.pk, found.tenant) rfl hroles
      rw [htenant, if_pos rfl] at hrole
      show RoleMap.roleAt _ (user.pk, tenant.id) = _
      rw [htenant, hrole]
      rfl

/-- Every invitation mail that is out went to the address of an invitation that
is still there, with its link and its role, and whoever accepts by that link
gets that role in its tenant. -/
theorem links_lead_home {accounts : AccountSite} {cache : IdempotencyService.Cache String}
    {ls : List Label}
    (hqueue : ∀ t ∈ accounts.queue, Linked services.settings accounts.toSite (.task t))
    (h : Lts.Run (Lts.Guarded (Step str cfg) (Requested services)) (start accounts cache) ls w) :
    ∀ x ∈ w.outbox, ∀ recipientEmail tenantName invitedByName role url,
      x.message = .task (.sendInvitationEmail recipientEmail tenantName invitedByName role url) →
      ∃ inv ∈ w.accounts.invitations, x.mail.recipients = [inv.email] ∧ role = inv.role.value
        ∧ (∃ before after, x.mail.body = before ++ acceptUrl services.settings inv ++ after)
        ∧ ∀ now user inv', (acceptInvitation w.accounts.toSite now inv.token user).1 = .ok inv' →
          inv'.id = inv.id ∧ ∀ tenant : Tenant, tenant.id = inv.tenant →
            getRole (acceptInvitation w.accounts.toSite now inv.token user).2 user tenant
              = some inv.role := by
  have hstart : InOrder services.settings (start accounts cache) := by
    refine ⟨Broker.All.holding fun m hm => ?_, fun x hx => absurd hx List.not_mem_nil⟩
    obtain ⟨t, ht, rfl⟩ := List.mem_map.mp hm
    exact hqueue t ht
  have hw : InOrder services.settings w :=
    h.invariant (fun _ _ _ hv hstep => inOrder_step hv hstep) hstart
  intro x hx recipientEmail tenantName invitedByName role url hmessage
  obtain ⟨hlinked, hdelivers⟩ := hw.sent x hx
  rw [hmessage] at hlinked hdelivers
  obtain ⟨inv, hinv, rfl, hrole, rfl⟩ := hlinked
  obtain ⟨hrecipients, hbody⟩ := hdelivers
  exact ⟨inv, hinv, hrecipients, hrole, hbody, fun _ _ _ hok => acceptInvitation_grants hinv hok⟩

end

/-! ## Two invitations mailed -/

def invited : AccountSite :=
  AuditTrail.perform AuditTrail.backends DemoSeed.accounts AuditTrail.invite

/-- Somebody else is invited while the first mail is on the way. -/
def another : AuditTrail.Op :=
  .sendInvitation (DemoSeed.callAt 0 8) DemoSeed.tenant1 "other@example.com" "member"
    DemoSeed.admin

def invitedBoth : AccountSite := AuditTrail.perform AuditTrail.backends invited another

def mailing : List Label :=
  [.request invitedBoth, .attempt 0 (attemptAt 0), .attempt 0 (attemptAt 0)]

def mailed : Worker := mailing.foldl (next (fun _ => "") plainMail) (start invited .empty)

theorem mailing_run :
    Lts.Run (Lts.Guarded (Step (fun _ => "") plainMail) (Requested AuditTrail.backends))
      (start invited .empty) mailing mailed := by
  refine .cons ⟨⟨?_, rfl⟩, Or.inl ⟨another, rfl⟩⟩
    (.cons ⟨⟨?_, rfl⟩, trivial⟩ (.cons ⟨⟨?_, rfl⟩, trivial⟩ (.nil _)))
  · exact services_admissible AuditTrail.backends (start invited .empty) another
  · show 0 < List.length _
    decide
  · show 0 < List.length _
    decide

theorem links_lead_home_mailed :
    ∃ x ∈ mailed.outbox, ∃ inv ∈ mailed.accounts.invitations, x.mail.recipients = [inv.email]
      ∧ (∃ before after,
        x.mail.body = before ++ acceptUrl AuditTrail.backends.settings inv ++ after)
      ∧ ∀ now user inv',
        (acceptInvitation mailed.accounts.toSite now inv.token user).1 = .ok inv' →
        inv'.id = inv.id ∧ ∀ tenant : Tenant, tenant.id = inv.tenant →
          getRole (acceptInvitation mailed.accounts.toSite now inv.token user).2 user tenant
            = some inv.role := by
  have hlinked : ∀ t ∈ invited.queue,
      Linked AuditTrail.backends.settings invited.toSite (.task t) := by
    intro t ht
    obtain rfl := List.mem_singleton.mp ht
    exact ⟨_, List.mem_cons_self, rfl, rfl, rfl⟩
  obtain ⟨x, hx, _, _, _, _, _, hmessage⟩ : ∃ x ∈ mailed.outbox,
      ∃ recipientEmail tenantName invitedByName role url, x.message
        = .task (.sendInvitationEmail recipientEmail tenantName invitedByName role url) :=
    ⟨_, List.mem_cons_self, _, _, _, _, _, rfl⟩
  obtain ⟨inv, hinv, hrecipients, -, hbody, haccepted⟩ :=
    links_lead_home hlinked mailing_run x hx _ _ _ _ _ hmessage
  exact ⟨x, hx, inv, hinv, hrecipients, hbody, haccepted⟩

/-- Both mails are out. -/
example : mailed.outbox.map (·.mail.recipients)
    = [["guest@example.com"], ["other@example.com"]] := by
  decide

end InvitationLinks

end SaasKit
