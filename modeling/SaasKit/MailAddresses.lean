import SaasKit.Worker

/-!
# Where mails go

An invitation and a reset mail carry the address in the task; every other
mail looks its account up when it is sent. So an erasure silences the old
address, except for what was handed over with the address in it
(`erasure_silences`): the queue is no row of the account, and nothing takes
such a task back.
-/

namespace SaasKit

namespace MailAddresses

open Tasks Worker

/-- The address a message carries. -/
def address? : Message → Option String
  | .task (.sendInvitationEmail recipientEmail ..) => some recipientEmail
  | .task (.sendPasswordResetEmail recipientEmail ..) => some recipientEmail
  | _ => none

/-- A mail to one address: the one the message carries, or an account's. -/
def Addressed (s : AccountSite) (m : Message) (mail : Mail) : Prop :=
  ∃ addr, mail.recipients = [addr] ∧ (address? m = some addr ∨ ∃ u ∈ s.users, u.email = addr)

section

variable {str : Json → String} {cfg : MailConfig} {a : Attempt} {s : AccountSite}
  {cache : IdempotencyService.Cache String} {w w' : Worker} {m : Message} {mail : Mail} {i : Nat}

/-! ## Recipients -/

theorem sendMail_mail {sent : Mail} {value : Option String}
    (h : (sendMail a sent value).mail = some mail) : mail = sent := by
  unfold sendMail at h
  split at h
  · cases h
  · rename_i result hsent
    obtain rfl : result = some mail := h
    rcases EmailService.sent_cases hsent with hsome | ⟨hnone, -⟩
    · exact Option.some.inj hsome
    · cases hnone

theorem send_recipients {subject : String} {recipient : EmailService.Recipients}
    {templateHtml templateTxt fromEmail : Option String} {context : List (String × Json)}
    (h : EmailService.send cfg a subject recipient templateHtml templateTxt context fromEmail
      = .ok (some mail)) : mail.recipients = recipient.addresses := by
  rcases EmailService.send_cases h with ⟨sent, hsent, hrecipients⟩ | ⟨hnone, -⟩
  · obtain rfl := Option.some.inj hsent
    exact hrecipients
  · cases hnone

/-- A mail of a guarded task is what its operation sends. -/
theorem once_mail {now : Time} {k : String} {operation : Except TaskError (String × Option Mail)}
    (h : (IdempotencyService.once cache now k operation).1.mail = some mail) :
    ∃ value, operation = .ok (value, some mail) := by
  unfold IdempotencyService.once at h
  split at h
  · cases h
  · split at h
    · cases h
    · rename_i value sent
      obtain rfl : sent = some mail := h
      exact ⟨value, rfl⟩

theorem toOwner_addressed {tenantId : UUID} {name : String}
    {compose : Tenant → User → Except TaskError Mail}
    (hcompose : ∀ tenant user sent, compose tenant user = .ok sent → sent.recipients = [user.email])
    (h : (toOwner a s.toSite tenantId name compose).mail = some mail) : Addressed s m mail := by
  unfold toOwner at h
  split at h
  · cases h
  · split at h
    · cases h
    · split at h
      · cases h
      · rename_i user huser
        split at h
        · cases h
        · rename_i sent hsent
          rw [sendMail_mail h]
          exact ⟨user.email, hcompose _ user sent hsent,
            Or.inr ⟨user, (Site.getUser_some huser).1, rfl⟩⟩

theorem welcome_addressed {userId : UserId} {value : String}
    (h : welcome cfg a s.toSite userId = .ok (value, some mail)) : Addressed s m mail := by
  unfold welcome at h
  split at h
  · rename_i result hsent
    obtain rfl := Except.ok.inj h
    unfold WelcomeEmailService.sendToUser at hsent
    split at hsent
    · cases hsent
    · rename_i user huser
      obtain ⟨sent, hsend, hdone⟩ := except_bind_ok.mp hsent
      obtain ⟨-, rfl⟩ := Prod.mk.inj (Except.ok.inj hdone)
      exact ⟨user.email, send_recipients hsend, Or.inr ⟨user, (Site.getUser_some huser).1, rfl⟩⟩
  · cases h
  · cases h

theorem notify_addressed {notificationId : UUID} {value : String}
    (h : notify cfg a s notificationId = .ok (value, some mail)) : Addressed s m mail := by
  unfold notify at h
  split at h
  · cases h
  · split at h
    · cases h
    · rename_i user huser
      obtain ⟨sent, hsend, hdone⟩ := except_bind_ok.mp h
      obtain ⟨-, rfl⟩ := Prod.mk.inj (Except.ok.inj hdone)
      exact ⟨user.email, send_recipients hsend, Or.inr ⟨user, (Site.getUser_some huser).1, rfl⟩⟩

theorem perform_addressed (h : (perform str cfg a s cache m).1.mail = some mail) :
    Addressed s m mail := by
  cases m with
  | task t =>
      cases t with
      | sendInvitationEmail recipientEmail tenantName invitedByName role acceptUrl =>
          have h : (sendInvitationEmail cfg a recipientEmail tenantName invitedByName role
            acceptUrl).mail = some mail := h
          unfold sendInvitationEmail at h
          simp only at h
          split at h
          · cases h
          · rw [sendMail_mail h]
            exact ⟨recipientEmail, rfl, Or.inl rfl⟩
      | handleStripeEvent eventId eventType eventData =>
          have h : (handleStripeEvent str a s.toSite eventId eventType eventData).1.mail
            = some mail := h
          unfold handleStripeEvent at h
          split at h <;> cases h
      | sendDunningEmail tenantId =>
          refine toOwner_addressed (fun tenant user sent hsent => ?_) h
          obtain ⟨html, -, hdone⟩ := except_bind_ok.mp hsent
          obtain rfl := Except.ok.inj hdone
          rfl
      | sendWelcomeEmail userId =>
          obtain ⟨value, hsent⟩ := once_mail h
          exact welcome_addressed hsent
      | sendPasswordResetEmail recipientEmail userName resetLink uid token hoursValid =>
          have h : (sendPasswordResetEmail cfg a recipientEmail userName resetLink uid token
            hoursValid).mail = some mail := h
          unfold sendPasswordResetEmail at h
          simp only at h
          split at h
          · cases h
          · rw [sendMail_mail h]
            exact ⟨recipientEmail, rfl, Or.inl rfl⟩
  | sendTrialEndingEmail tenantId daysRemaining =>
      refine toOwner_addressed (fun tenant user sent hsent => ?_) h
      obtain ⟨html, -, hdone⟩ := except_bind_ok.mp hsent
      obtain rfl := Except.ok.inj hdone
      rfl
  | sendEmailNotification notificationId =>
      obtain ⟨value, hsent⟩ := once_mail h
      exact notify_addressed hsent

/-! ## After an erasure -/

/-- The mails of `w'` that `w` has not sent go elsewhere, or are of a message
that carries the address. -/
def Silent (addr : String) (w w' : Worker) : Prop :=
  ∃ sent, w'.outbox = w.outbox ++ sent
    ∧ ∀ x ∈ sent, addr ∈ x.mail.recipients → address? x.message = some addr

theorem Silent.refl (addr : String) (w : Worker) : Silent addr w w :=
  ⟨[], (List.append_nil _).symm, fun _ hx => absurd hx List.not_mem_nil⟩

theorem Silent.trans {addr : String} {w₁ w₂ w₃ : Worker} (h : Silent addr w₁ w₂)
    (h' : Silent addr w₂ w₃) : Silent addr w₁ w₃ := by
  obtain ⟨sent, hsent, hall⟩ := h
  obtain ⟨sent', hsent', hall'⟩ := h'
  refine ⟨sent ++ sent', by rw [hsent', hsent, List.append_assoc], fun x hx => ?_⟩
  rcases List.mem_append.mp hx with hx | hx
  · exact hall x hx
  · exact hall' x hx

theorem silent_attempt {addr : String} (hw : Unowned w.accounts addr)
    (hi : i < w.broker.pending.length) : Silent addr w (w.attempt str cfg i a) := by
  obtain ⟨m, retries, hi⟩ := pending_of_lt hi
  rw [attempt_eq hi]
  refine ⟨_, rfl, fun x hx haddr => ?_⟩
  obtain ⟨mail, hmail, rfl⟩ := List.mem_map.mp hx
  obtain ⟨to', hrecipients, hown⟩ := perform_addressed (Option.mem_toList.mp hmail)
  obtain rfl : addr = to' := by
    rw [hrecipients] at haddr
    exact List.mem_singleton.mp haddr
  exact hown.resolve_right fun ⟨u, hu, hemail⟩ => hw u hu hemail

theorem silent_step {addr : String} {l : Label} (hw : Unowned w.accounts addr)
    (h : Lts.Guarded (Step str cfg) (Spares addr) w l w') :
    Unowned w'.accounts addr ∧ Silent addr w w' := by
  refine ⟨unowned_step hw h, ?_⟩
  obtain ⟨⟨hadmissible, rfl⟩, -⟩ := h
  cases l with
  | request accounts => exact .refl addr w
  | call m => exact .refl addr w
  | redeliver i => exact .refl addr w
  | attempt i a => exact silent_attempt hw hadmissible

/-- The site after an erasure that returns, under another placeholder. -/
inductive Erased (s : AccountSite) (u : User) : AccountSite → Prop
  | anonymize (draw : Placeholder) (result : ErasureResult) (s' : AccountSite) :
      GDPRService.anonymize s u draw = (.ok result, s') → draw.email ≠ u.email → Erased s u s'
  | hardDelete : Erased s u (GDPRService.hardDelete s u).2

theorem Erased.unowned {s' : AccountSite} {u : User} (h : Erased s u s')
    (hown : ∀ v ∈ s.users, v.email = u.email → v.pk = u.pk) : Unowned s' u.email := by
  intro v hv hemail
  cases h with
  | anonymize draw result _ hdone hother =>
      rcases (GDPRService.anonymize_ok hdone).row hv with ⟨hold, hpk⟩ | ⟨old, -, -, rfl⟩
      · exact hpk (hown v hold hemail)
      · exact hother hemail
  | hardDelete =>
      obtain ⟨hold, hother⟩ := Table.mem_delete.mp hv
      exact absurd (hown v hold hemail) (by simpa using hother)

end

/-! ## Welcomes after an erasure -/

/-- The admin's and the guest's welcome are on the way. -/
def greetingBoth : AccountSite :=
  { DemoSeed.twoAccounts with
    queue := [.sendWelcomeEmail DemoSeed.admin.pk, .sendWelcomeEmail DemoSeed.guest.pk] }

/-- The admin is gone. -/
def erased : AccountSite := (GDPRService.hardDelete greetingBoth DemoSeed.admin).2

def attempts : List Label := [.attempt 0 (attemptAt 0), .attempt 0 (attemptAt 0)]

def skipped : Worker :=
  attempts.foldl (next (fun _ => "") plainMail)
    (next (fun _ => "") plainMail (start greetingBoth .empty) (.request erased))

/-- The guest is welcomed. -/
example : skipped.outbox.map (·.mail.recipients) = [["guest@example.com"]] := by
  decide

end MailAddresses

end SaasKit
