import SaasKit.AuditTrail
import SaasKit.IdempotencyService
import SaasKit.PlanLimitService
import SaasKit.ResetRequest

/-!
# The Celery tasks

What one attempt at each task does: the mail it sends, if it sends one, and
whether it returns, raises or asks for a retry. Templates and the mail
backend are parameters. The mails about a subscription go to the owner of
the tenant; the welcome mail and the mail of a notification pass through
`IdempotencyService`, so a second attempt within a day sends nothing.

The body of a task is one step here: a worker that is killed in the middle
of it is left out.
-/

namespace SaasKit

/-- What a task can raise: an exception of a service, one of Django's for a
missing row, or whatever a template or the mail backend raises. -/
inductive TaskError where
  | service (e : Exc)
  | valueError (message : String)
  | doesNotExist
  | outside (text : String)
  deriving DecidableEq, Repr

structure Mail where
  subject : String
  body : String
  fromEmail : String
  recipients : List String
  html : Option String
  deriving DecidableEq, Repr

/-- The template engine, the settings and the columns the mails are made of. -/
structure MailConfig where
  renderToString : String → List (String × Json) → Except TaskError String
  strftime : Time → String
  planName : Plan → String
  defaultFromEmail : String
  frontendUrl : String
  billingPortalUrl : Option String

/-- What an attempt meets: the clock, the mail backend, and the broker when
the task hands over another one or is to be retried. -/
structure Attempt where
  now : Time
  smtp : Mail → Except TaskError Unit
  brokerUp : Bool
  retryUp : Bool

/-- How the body of a task ends. -/
inductive TaskResult where
  | returned (value : Option String) (mail : Option Mail)
  | raised (e : TaskError)
  | retry (e : TaskError)

def TaskResult.mail : TaskResult → Option Mail
  | .returned _ mail => mail
  | .raised _ | .retry _ => none

/-! ## `EmailService` -/

/-- `EmailMessage.send`, which does nothing for a message that has no recipients: an
empty address is none. -/
def EmailMessage.send (a : Attempt) (mail : Mail) : Except TaskError (Option Mail) :=
  if mail.recipients.all (· == "") then .ok none
  else do
    a.smtp mail
    return some mail

namespace EmailService

/-- `to: str | list[str]`. -/
inductive Recipients where
  | one (address : String)
  | many (addresses : List String)

def Recipients.addresses : Recipients → List String
  | one address => [address]
  | many addresses => addresses

/-- A template that was given: neither `None` nor empty. -/
def given (template : Option String) : Option String := template.filter (· ≠ "")

/-- The message `EmailService.send` hands to the backend. -/
def message (cfg : MailConfig) (subject : String) (recipient : Recipients)
    (templateHtml templateTxt : Option String) (context : List (String × Json))
    (fromEmail : Option String) : Except TaskError Mail :=
  if (given templateHtml).isNone && (given templateTxt).isNone then
    .error (.valueError "At least one of template_html or template_txt must be provided.")
  else do
    let body ← match given templateTxt with
      | some template => cfg.renderToString template context
      | none => pure ""
    let html ← match given templateHtml with
      | some template => some <$> cfg.renderToString template context
      | none => pure none
    return ⟨subject, body, (given fromEmail).getD cfg.defaultFromEmail, recipient.addresses, html⟩

def send (cfg : MailConfig) (a : Attempt) (subject : String) (recipient : Recipients)
    (templateHtml templateTxt : Option String) (context : List (String × Json))
    (fromEmail : Option String) : Except TaskError (Option Mail) := do
  let mail ← message cfg subject recipient templateHtml templateTxt context fromEmail
  EmailMessage.send a mail

section

variable {cfg : MailConfig} {a : Attempt} {mail : Mail} {sent : Option Mail} {subject : String}
  {recipient : Recipients} {templateHtml templateTxt fromEmail : Option String}
  {context : List (String × Json)}

theorem sent_cases (h : EmailMessage.send a mail = .ok sent) :
    sent = some mail ∨ sent = none ∧ ∀ addr ∈ mail.recipients, addr = "" := by
  unfold EmailMessage.send at h
  split at h
  · rename_i hnobody
    obtain rfl := Except.ok.inj h
    exact Or.inr ⟨rfl, fun addr haddr => eq_of_beq (List.all_eq_true.mp hnobody addr haddr)⟩
  · obtain ⟨-, -, hdone⟩ := except_bind_ok.mp h
    exact Or.inl (Except.ok.inj hdone).symm

theorem message_recipients
    (h : message cfg subject recipient templateHtml templateTxt context fromEmail = .ok mail) :
    mail.recipients = recipient.addresses := by
  unfold message at h
  split at h
  · cases h
  · simp only at h
    split at h <;> obtain ⟨body, -, hhtml⟩ := except_bind_ok.mp h <;>
      split at hhtml <;> obtain ⟨html, -, hdone⟩ := except_bind_ok.mp hhtml <;>
      obtain rfl := Except.ok.inj hdone <;> rfl

/-- A mail that was sent has the recipients, and one that was not has none. -/
theorem send_cases
    (h : send cfg a subject recipient templateHtml templateTxt context fromEmail = .ok sent) :
    (∃ mail, sent = some mail ∧ mail.recipients = recipient.addresses)
      ∨ sent = none ∧ ∀ addr ∈ recipient.addresses, addr = "" := by
  obtain ⟨mail, hmessage, hsent⟩ := except_bind_ok.mp h
  rw [← message_recipients hmessage]
  exact (sent_cases hsent).imp_left fun h => ⟨mail, h, rfl⟩

end

end EmailService

namespace WelcomeEmailService

def sendToUser (cfg : MailConfig) (a : Attempt) (s : Site) (userId : UserId) :
    Except TaskError (String × Option Mail) :=
  match s.getUser userId with
  | none =>
      .error (.service (.validationServiceError ("User " ++ toString userId ++ " not found.")))
  | some user => do
      let context :=
        [("user_name", Json.str (PasswordResetService.recipientName user)),
          ("email", .str user.email)]
      let mail ← EmailService.send cfg a "Welcome to Django SaaS Kit" (.one user.email)
        (some "emails/welcome.html") (some "emails/welcome.txt") context none
      return ("welcome_sent:" ++ toString userId, mail)

end WelcomeEmailService

namespace IdempotencyService

def buildKey (taskName businessId : String) : String := taskName ++ ":" ++ businessId

/-- `run` in a task, with the mail its operation sends. -/
def once (cache : Cache String) (now : Time) (idempotencyKey : String)
    (operation : Except TaskError (String × Option Mail)) : TaskResult × Cache String :=
  match lookup cache now idempotencyKey with
  | some cached => (.returned (some cached) none, cache)
  | none =>
      match operation with
      -- `autoretry_for=(Exception,)`
      | .error e => (.retry e, cache)
      | .ok (value, mail) =>
          (.returned (some value) mail,
            cache.set (cacheKey idempotencyKey) (some value) (now + seconds defaultTtlSeconds))

/-- Whatever the exceptions are called, the cache is that of `run`. -/
theorem once_run (cache : Cache String) (now : Time) (idempotencyKey : String)
    (operation : Except TaskError (String × Option Mail)) (name : TaskError → Exc) :
    (once cache now idempotencyKey operation).2
      = (run cache now idempotencyKey
          ((operation.mapError name).map fun result => some result.1) defaultTtlSeconds).2 := by
  unfold once run
  cases lookup cache now idempotencyKey with
  | some cached => rfl
  | none =>
      cases operation with
      | error e => rfl
      | ok result => rfl

end IdempotencyService

/-! ## The tasks -/

namespace Tasks

/-- `send_mail(..., fail_silently=False)` in a task that retries. -/
def sendMail (a : Attempt) (mail : Mail) (value : Option String) : TaskResult :=
  match EmailMessage.send a mail with
  | .error e => .retry e
  | .ok sent => .returned value sent

def sendInvitationEmail (cfg : MailConfig) (a : Attempt)
    (recipientEmail tenantName invitedByName role acceptUrl : String) : TaskResult :=
  let context :=
    [("tenant_name", Json.str tenantName), ("invited_by_name", .str invitedByName),
      ("role", .str role), ("accept_url", .str acceptUrl)]
  match cfg.renderToString "emails/invitation.html" context with
  | .error e => .raised e
  | .ok html =>
      sendMail a
        { subject := "You've been invited to join " ++ tenantName
          body := "Hi,\n\n" ++ invitedByName ++ " has invited you to join " ++ tenantName
            ++ " as a " ++ role ++ ".\n\nAccept your invitation here (expires in 72 hours):\n"
            ++ acceptUrl
            ++ "\n\nIf you didn't expect this invitation you can safely ignore this email.\n"
          fromEmail := cfg.defaultFromEmail
          recipients := [recipientEmail]
          html := some html } none

def sendPasswordResetEmail (cfg : MailConfig) (a : Attempt)
    (recipientEmail userName resetLink uid token : String) (hoursValid : Nat) : TaskResult :=
  let context :=
    [("user_name", Json.str userName), ("reset_link", .str resetLink), ("uid", .str uid),
      ("token", .str token), ("hours_valid", .num hoursValid)]
  let rendered : Except TaskError (String × String) := do
    let body ← cfg.renderToString "emails/password_reset.txt" context
    let html ← cfg.renderToString "emails/password_reset.html" context
    return (body, html)
  match rendered with
  | .error e => .raised e
  | .ok (body, html) =>
      sendMail a ⟨"Password Reset Request", body, cfg.defaultFromEmail, [recipientEmail], some html⟩
        (some ("password_reset_email:sent:" ++ recipientEmail))

/-- `filter(tenant=tenant, role=OWNER).first()`: the rows are ordered by
`-created_at`, and the newest one is the last of the table. -/
def ownerRole (s : Site) (tenant : Tenant) : Option UserTenantRole :=
  (s.userTenantRoles.filter fun row =>
    row.tenant == tenant.id && decide (row.role = .owner)).getLast?

def subscriptionOf (s : Site) (tenant : Tenant) : Option Subscription :=
  s.subscriptions.find? (·.tenant == tenant.id)

def billingUrl (cfg : MailConfig) : String :=
  cfg.billingPortalUrl.getD (cfg.frontendUrl ++ "/billing")

/-- The body of the two tasks that write to the owner of a tenant. All of it
is inside the `try`. -/
def toOwner (a : Attempt) (s : Site) (tenantId : UUID) (name : String)
    (compose : Tenant → User → Except TaskError Mail) : TaskResult :=
  match s.getTenant tenantId with
  | none => .retry .doesNotExist
  | some tenant =>
      match ownerRole s tenant with
      | none => .returned (some (name ++ ":no_owner:" ++ uuidStr tenantId)) none
      | some role =>
          match s.getUser role.user with
          | none => .retry .doesNotExist
          | some user =>
              match compose tenant user with
              | .error e => .retry e
              | .ok mail => sendMail a mail (some (name ++ ":sent:" ++ uuidStr tenantId))

def sendDunningEmail (cfg : MailConfig) (a : Attempt) (s : Site) (tenantId : UUID) : TaskResult :=
  toOwner a s tenantId "dunning" fun tenant user => do
    let userName := PasswordResetService.recipientName user
    let graceEnd := (((subscriptionOf s tenant).bind (·.gracePeriodEnd)).map cfg.strftime).getD
      "soon"
    let planName := ((PlanLimitService.getPlan s tenant).map cfg.planName).getD "Unknown"
    let html ← cfg.renderToString "emails/payment_failed.html"
      [("user_name", .str userName), ("tenant_name", .str tenant.name),
        ("plan_name", .str planName), ("grace_period_end", .str graceEnd),
        ("billing_url", .str (billingUrl cfg))]
    return {
      subject := "Action required: Payment failed for " ++ tenant.name
      body := "Hi " ++ userName ++ ",\n\nYour recent payment failed for " ++ tenant.name
        ++ ".\nPlease update your payment method before " ++ graceEnd
        ++ " to avoid service interruption.\n\nUpdate here: " ++ billingUrl cfg
      fromEmail := cfg.defaultFromEmail
      recipients := [user.email]
      html := some html }

def sendTrialEndingEmail (cfg : MailConfig) (a : Attempt) (s : Site) (tenantId : UUID)
    (daysRemaining : Int) : TaskResult :=
  toOwner a s tenantId "trial_ending" fun tenant user => do
    let userName := PasswordResetService.recipientName user
    let trialEnd := (((subscriptionOf s tenant).bind (·.trialEnd)).map cfg.strftime).getD "soon"
    let planName := ((PlanLimitService.getPlan s tenant).map cfg.planName).getD "Trial"
    let html ← cfg.renderToString "emails/trial_ending.html"
      [("user_name", .str userName), ("tenant_name", .str tenant.name),
        ("plan_name", .str planName), ("days_remaining", .num daysRemaining),
        ("trial_end_date", .str trialEnd), ("billing_url", .str (billingUrl cfg))]
    return {
      subject := "Your trial ends in " ++ toString daysRemaining ++ " day(s) — " ++ tenant.name
      body := "Hi " ++ userName ++ ",\n\nYour free trial for " ++ tenant.name ++ " ends in "
        ++ toString daysRemaining ++ " day(s) on " ++ trialEnd
        ++ ".\nAdd a payment method here to continue: " ++ billingUrl cfg
      fromEmail := cfg.defaultFromEmail
      recipients := [user.email]
      html := some html }

def handleStripeEvent (str : Json → String) (a : Attempt) (s : Site)
    (eventId eventType : String) (eventData : Json) : TaskResult × Site :=
  match BillingService.processEvent str s ⟨a.now, a.brokerUp, eventType, eventData⟩ with
  | (.ok (), s) => (.returned (some ("stripe_event:processed:" ++ eventId)) none, s)
  | (.error e, s) => (.retry (.service e), s)

/-- `_send` of the welcome task: a user who is gone is skipped for good. -/
def welcome (cfg : MailConfig) (a : Attempt) (s : Site) (userId : UserId) :
    Except TaskError (String × Option Mail) :=
  match WelcomeEmailService.sendToUser cfg a s userId with
  | .ok result => .ok result
  | .error (.service (.validationServiceError _)) =>
      .ok ("welcome_skipped:" ++ toString userId, none)
  | .error e => .error e

def welcomeKey (userId : UserId) : String :=
  IdempotencyService.buildKey "welcome_email" (toString userId)

def sendWelcomeEmail (cfg : MailConfig) (a : Attempt) (s : Site)
    (cache : IdempotencyService.Cache String) (userId : UserId) :
    TaskResult × IdempotencyService.Cache String :=
  IdempotencyService.once cache a.now (welcomeKey userId) (welcome cfg a s userId)

/-- `_send` of the task for a notification. -/
def notify (cfg : MailConfig) (a : Attempt) (s : AccountSite) (notificationId : UUID) :
    Except TaskError (String × Option Mail) :=
  match s.notifications.find? (·.id == notificationId) with
  | none => .ok ("email_notification_skipped:" ++ uuidStr notificationId, none)
  | some notification =>
      match s.getUser notification.user with
      | none => .error .doesNotExist
      | some user => do
          let context :=
            [("user_name", Json.str (PasswordResetService.recipientName user)),
              ("title", .str notification.title), ("body", .str notification.body),
              ("frontend_url", .str cfg.frontendUrl)]
          let mail ← EmailService.send cfg a notification.title (.one user.email)
            (some "emails/notification.html") (some "emails/notification.txt") context none
          return ("email_notification_sent:" ++ uuidStr notificationId, mail)

def notificationKey (notificationId : UUID) : String :=
  IdempotencyService.buildKey "send_email_notification" (uuidStr notificationId)

def sendEmailNotification (cfg : MailConfig) (a : Attempt) (s : AccountSite)
    (cache : IdempotencyService.Cache String) (notificationId : UUID) :
    TaskResult × IdempotencyService.Cache String :=
  IdempotencyService.once cache a.now (notificationKey notificationId)
    (notify cfg a s notificationId)

end Tasks

end SaasKit
