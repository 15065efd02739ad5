import SaasKit.Python

/-!
# The length of the secret key: `config.env` and the settings modules

The check reads `DEBUG` with the default `True`, the setting with the default
`False`, and the production module sets it to `False` after the check has
run. A short key is refused only where `DEBUG` is set to a false value
(`keepsLong_iff`).
-/

namespace SaasKit

namespace SecretKey

/-- What stops an import. -/
inductive Raised where
  | undefinedValueError (message : String)
  | valueError (message : String)
  | improperlyConfigured (message : String)
  | other
  deriving DecidableEq

/-- The variables of the process, and below them those of the `.env` file. -/
abbrev Env := String → Option String

/-- The casts of `python-decouple`. -/
structure Casts where
  bool : String → Except Raised Bool
  csv : String → Except Raised (List String)
  bool_true : bool "True" = .ok true
  bool_false : bool "False" = .ok false

/-! ## `config.env` -/

def requiredVars : List String := ["SECRET_KEY", "DATABASE_URL", "REDIS_URL"]

def minSecretKeyLength : Nat := 50

/-- `_config(key)`. -/
def config (env : Env) (key : String) : Except Raised String :=
  match env key with
  | some value => .ok value
  | none => .error (.undefinedValueError
      (key ++ " not found. Declare it as envvar or define a default value."))

/-- `get_bool`. The default is cast too. -/
def getBool (casts : Casts) (env : Env) (key : String) (default : Bool) : Except Raised Bool :=
  casts.bool ((env key).getD (if default then "True" else "False"))

def getCsv (casts : Casts) (env : Env) (key : String) : Except Raised (List String) :=
  casts.csv ((env key).getD "")

/-- Not set, or blank. -/
def isMissing (env : Env) (key : String) : Bool :=
  match env key with
  | some value => strip value == ""
  | none => true

def validateRequiredSettings (casts : Casts) (env : Env) : Except Raised Unit :=
  let missing := requiredVars.filter (isMissing env)
  if missing ≠ [] then
    .error (.undefinedValueError ("Missing required environment variable(s): "
      ++ ", ".intercalate missing
      ++ ". Copy .env.example to .env and set all required values."))
  else do
    let debug ← getBool casts env "DEBUG" true
    if debug then pure ()
    else match config env "SECRET_KEY" with
      | .ok secretKey =>
          if (strip secretKey).length < minSecretKeyLength then
            throw (.valueError ("SECRET_KEY must be at least " ++ toString minSecretKeyLength
              ++ " characters. Generate one with: python -c \"from django.core.management.utils "
              ++ "import get_random_secret_key; print(get_random_secret_key())\""))
          else pure ()
      | .error (.undefinedValueError _) => pure ()
      | .error e => throw e

/-! ## `config.settings` -/

/-- The settings in question. -/
structure Loaded where
  secretKey : String
  debug : Bool
  deriving DecidableEq

inductive Module where
  | base
  | prod
  deriving DecidableEq

/-- The statements of a module that set something else: they succeed or
stop the import. -/
structure Rest where
  base : Env → Except Raised Unit
  sentry : Env → Except Raised Unit

def importBase (casts : Casts) (rest : Rest) (env : Env) : Except Raised Loaded := do
  validateRequiredSettings casts env
  let secretKey ← config env "SECRET_KEY"
  let debug ← getBool casts env "DEBUG" false
  rest.base env
  pure ⟨secretKey, debug⟩

/-- What follows `DEBUG = False`. -/
def hardened (casts : Casts) (rest : Rest) (env : Env) : Except Raised Unit := do
  let allowedHosts ← getCsv casts env "ALLOWED_HOSTS"
  if allowedHosts = [] then
    throw (.improperlyConfigured ("ALLOWED_HOSTS is required in production. "
      ++ "Set a comma-separated list of hostnames in the environment."))
  let corsAllowedOrigins ← getCsv casts env "CORS_ALLOWED_ORIGINS"
  let _ ← getBool casts env "CORS_ALLOW_CREDENTIALS" false
  if corsAllowedOrigins = [] then
    throw (.improperlyConfigured ("CORS_ALLOWED_ORIGINS is required in production. "
      ++ "Set a comma-separated list of allowed origins, e.g. https://app.example.com"))
  rest.sentry env

def importProd (casts : Casts) (rest : Rest) (env : Env) : Except Raised Loaded := do
  let loaded ← importBase casts rest env
  hardened casts rest env
  pure { loaded with debug := false }

def importSettings (casts : Casts) (rest : Rest) (env : Env) : Module → Except Raised Loaded
  | .base => importBase casts rest env
  | .prod => importProd casts rest env

/-! ## The condition -/

def LongEnough (secretKey : String) : Prop := minSecretKeyLength ≤ (strip secretKey).length

/-- An import that completes with `DEBUG` off has a key that is long enough. -/
def KeepsLong (casts : Casts) (rest : Rest) (env : Env) (m : Module) : Prop :=
  ∀ loaded, importSettings casts rest env m = .ok loaded → loaded.debug = false →
    LongEnough loaded.secretKey

/-- `DEBUG` is set to a true or a false value. -/
def DebugSet (casts : Casts) (env : Env) (debug : Bool) : Prop :=
  ∃ value, env "DEBUG" = some value ∧ casts.bool value = .ok debug

/-- Nothing but the length of the key can stop the import. -/
structure Ready (casts : Casts) (rest : Rest) (env : Env) (m : Module) : Prop where
  present : ∀ key ∈ requiredVars, isMissing env key = false
  boolean : env "DEBUG" = none ∨ ∃ debug, DebugSet casts env debug
  base : rest.base env = .ok ()
  prod : m = .prod → hardened casts rest env = .ok ()

variable {casts : Casts} {rest : Rest} {env : Env} {m : Module} {loaded : Loaded}

theorem getBool_debug {default debug : Bool} :
    getBool casts env "DEBUG" default = .ok debug ↔
      (env "DEBUG" = none ∧ debug = default) ∨ DebugSet casts env debug := by
  rw [getBool, DebugSet]
  cases env "DEBUG" with
  | none =>
      cases default with
      | true => simp [casts.bool_true, eq_comm]
      | false => simp [casts.bool_false, eq_comm]
  | some value => simp

theorem config_ok {key value : String} : config env key = .ok value ↔ env key = some value := by
  rw [config]
  cases env key with
  | none => simp
  | some other => simp

theorem validate_ok : validateRequiredSettings casts env = .ok () ↔
    (∀ key ∈ requiredVars, isMissing env key = false)
      ∧ ∃ debug, getBool casts env "DEBUG" true = .ok debug
        ∧ (debug = false → ∀ secretKey, env "SECRET_KEY" = some secretKey →
          LongEnough secretKey) := by
  unfold validateRequiredSettings
  by_cases hmissing : requiredVars.filter (isMissing env) = []
  · have hpresent : ∀ key ∈ requiredVars, isMissing env key = false := fun key hkey =>
      Bool.eq_false_iff.mpr (List.filter_eq_nil_iff.mp hmissing key hkey)
    simp only [hmissing, ne_eq, not_true_eq_false, if_false, except_bind_ok]
    refine Iff.trans (exists_congr fun debug => and_congr_right fun _ => ?_)
      (and_iff_right hpresent).symm
    cases debug with
    | true => simp [pure, Except.pure]
    | false =>
        simp only [Bool.false_eq_true, if_false, forall_const]
        cases hkey : env "SECRET_KEY" with
        | none => simp [config, hkey, pure, Except.pure]
        | some secretKey =>
            simp only [config, hkey, Option.some.injEq, forall_eq', LongEnough]
            by_cases hshort : (strip secretKey).length < minSecretKeyLength
            · rw [if_pos hshort]
              exact iff_of_false (fun h => nomatch h) (Nat.not_le.mpr hshort)
            · rw [if_neg hshort]
              exact iff_of_true rfl (Nat.not_lt.mp hshort)
  · simp only [hmissing, ne_eq, not_false_eq_true, if_true, reduceCtorEq, false_iff]
    rintro ⟨hpresent, -⟩
    exact hmissing (List.filter_eq_nil_iff.mpr fun key hkey =>
      Bool.eq_false_iff.mp (hpresent key hkey))

theorem importBase_ok : importBase casts rest env = .ok loaded ↔
    validateRequiredSettings casts env = .ok () ∧ env "SECRET_KEY" = some loaded.secretKey
      ∧ getBool casts env "DEBUG" false = .ok loaded.debug ∧ rest.base env = .ok () := by
  simp only [importBase, except_bind_ok, config_ok]
  constructor
  · rintro ⟨_, hvalid, secretKey, hkey, debug, hdebug, _, hrest, hloaded⟩
    obtain rfl := Except.ok.inj hloaded
    exact ⟨hvalid, hkey, hdebug, hrest⟩
  · rintro ⟨hvalid, hkey, hdebug, hrest⟩
    exact ⟨(), hvalid, loaded.secretKey, hkey, loaded.debug, hdebug, (), hrest, rfl⟩

theorem importProd_ok : importProd casts rest env = .ok loaded ↔
    loaded.debug = false ∧ hardened casts rest env = .ok ()
      ∧ ∃ debug, importBase casts rest env = .ok ⟨loaded.secretKey, debug⟩ := by
  simp only [importProd, except_bind_ok]
  constructor
  · rintro ⟨⟨secretKey, debug⟩, hbase, _, hprod, hloaded⟩
    obtain rfl := Except.ok.inj hloaded
    exact ⟨rfl, hprod, debug, hbase⟩
  · rintro ⟨hdebug, hprod, debug, hbase⟩
    refine ⟨_, hbase, (), hprod, ?_⟩
    rw [← hdebug]
    rfl

theorem isMissing_eq_false {key : String} :
    isMissing env key = false → ∃ value, env key = some value := by
  rw [isMissing]
  cases env key with
  | none => exact fun h => nomatch h
  | some value => exact fun _ => ⟨value, rfl⟩

/-- Where `DEBUG` is set to a false value, the check has seen the key. -/
theorem longEnough_of_checked {secretKey : String}
    (hvalid : validateRequiredSettings casts env = .ok ()) (hdebug : DebugSet casts env false)
    (hkey : env "SECRET_KEY" = some secretKey) : LongEnough secretKey := by
  obtain ⟨-, debug, hread, hchecked⟩ := validate_ok.mp hvalid
  rw [getBool_debug.mpr (Or.inr hdebug)] at hread
  exact hchecked (Except.ok.inj hread).symm secretKey hkey

/-- Elsewhere it has not. -/
theorem importBase_unchecked (h : Ready casts rest env m) (hdebug : ¬ DebugSet casts env false) :
    ∃ secretKey debug, env "SECRET_KEY" = some secretKey
      ∧ importBase casts rest env = .ok ⟨secretKey, debug⟩
      ∧ (env "DEBUG" = none ∧ debug = false ∨ DebugSet casts env true) := by
  obtain ⟨secretKey, hkey⟩ := isMissing_eq_false (h.present "SECRET_KEY" List.mem_cons_self)
  have hload : ∀ debug, getBool casts env "DEBUG" true = .ok true →
      getBool casts env "DEBUG" false = .ok debug →
      importBase casts rest env = .ok ⟨secretKey, debug⟩ := fun debug hchecked hread =>
    importBase_ok.mpr ⟨validate_ok.mpr ⟨h.present, true, hchecked, fun h => nomatch h⟩, hkey,
      hread, h.base⟩
  rcases h.boolean with hnone | ⟨debug, hset⟩
  · exact ⟨secretKey, false, hkey, hload false (getBool_debug.mpr (Or.inl ⟨hnone, rfl⟩))
      (getBool_debug.mpr (Or.inl ⟨hnone, rfl⟩)), Or.inl ⟨hnone, rfl⟩⟩
  · cases debug with
    | false => exact absurd hset hdebug
    | true => exact ⟨secretKey, true, hkey, hload true (getBool_debug.mpr (Or.inr hset))
        (getBool_debug.mpr (Or.inr hset)), Or.inr hset⟩

theorem ready_of_base (h : importBase casts rest env = .ok loaded)
    (hprod : m = .prod → hardened casts rest env = .ok ()) : Ready casts rest env m := by
  obtain ⟨hvalid, -, hread, hrest⟩ := importBase_ok.mp h
  refine ⟨(validate_ok.mp hvalid).1, ?_, hrest, hprod⟩
  rcases getBool_debug.mp hread with ⟨hnone, -⟩ | hset
  · exact Or.inl hnone
  · exact Or.inr ⟨_, hset⟩

/-- The modules keep short keys out where the check looks at them, and where the module
does not switch `DEBUG` off. -/
theorem keepsLong_iff (casts : Casts) (rest : Rest) (env : Env) (m : Module) :
    KeepsLong casts rest env m ↔ (Ready casts rest env m →
      DebugSet casts env false ∨ (m = .base ∧ DebugSet casts env true)
        ∨ ∀ secretKey, env "SECRET_KEY" = some secretKey → LongEnough secretKey) := by
  constructor
  · intro hkeeps hready
    by_cases hdebug : DebugSet casts env false
    · exact Or.inl hdebug
    obtain ⟨secretKey, debug, hkey, hbase, hread⟩ := importBase_unchecked hready hdebug
    have hthird : LongEnough secretKey →
        ∀ other, env "SECRET_KEY" = some other → LongEnough other := fun hlong other hother =>
      Option.some.inj (hkey.symm.trans hother) ▸ hlong
    cases m with
    | base =>
        rcases hread with ⟨-, rfl⟩ | hset
        · have hlong := hkeeps ⟨secretKey, false⟩ hbase rfl
          exact Or.inr (Or.inr (hthird hlong))
        · exact Or.inr (Or.inl ⟨rfl, hset⟩)
    | prod =>
        have hprod : importProd casts rest env = .ok ⟨secretKey, false⟩ :=
          importProd_ok.mpr ⟨rfl, hready.prod rfl, debug, hbase⟩
        have hlong := hkeeps ⟨secretKey, false⟩ hprod rfl
        exact Or.inr (Or.inr (hthird hlong))
  · intro hcond loaded hload hoff
    cases m with
    | base =>
        have hbase : importBase casts rest env = .ok loaded := hload
        obtain ⟨hvalid, hkey, hread, -⟩ := importBase_ok.mp hbase
        have hready : Ready casts rest env .base :=
          ready_of_base hbase fun hm => absurd hm (by decide)
        rcases hcond hready with hset | ⟨-, hset⟩ | hlong
        · exact longEnough_of_checked hvalid hset hkey
        · have hon : loaded.debug = true :=
            Except.ok.inj (hread.symm.trans (getBool_debug.mpr (Or.inr hset)))
          exact absurd (hoff.symm.trans hon) Bool.false_ne_true
        · exact hlong _ hkey
    | prod =>
        obtain ⟨-, hprod, debug, hbase⟩ := importProd_ok.mp hload
        obtain ⟨hvalid, hkey, -, -⟩ := importBase_ok.mp hbase
        rcases hcond (ready_of_base hbase fun _ => hprod) with hset | ⟨hm, -⟩ | hlong
        · exact longEnough_of_checked hvalid hset hkey
        · exact absurd hm (by decide)
        · exact hlong _ hkey

/-! ## A short key -/

/-- `strtobool`, and the empty text for false. -/
def strtobool (value : String) : Except Raised Bool :=
  let lower := String.ofList (value.toList.map Char.toLower)
  if ["y", "yes", "t", "true", "on", "1"].contains lower then .ok true
  else if ["n", "no", "f", "false", "off", "0", ""].contains lower then .ok false
  else .error (.valueError ("invalid truth value " ++ value))

def decouple : Casts where
  bool := strtobool
  csv value := .ok (if value = "" then [] else [value])
  bool_true := rfl
  bool_false := rfl

def completes : Rest := ⟨fun _ => .ok (), fun _ => .ok ()⟩

/-- `DEBUG` is not set. -/
def shortKey : Env
  | "SECRET_KEY" => some "test-secret-key"
  | "DATABASE_URL" => some "sqlite:///test.db"
  | "REDIS_URL" => some "redis://localhost:6379/0"
  | _ => none

theorem base_takes_shortKey : importSettings decouple completes shortKey .base
    = .ok ⟨"test-secret-key", false⟩ ∧ ¬ KeepsLong decouple completes shortKey .base := by
  have hload : importSettings decouple completes shortKey .base
      = .ok ⟨"test-secret-key", false⟩ := rfl
  refine ⟨hload, fun hkeeps => ?_⟩
  have hlong := hkeeps _ hload rfl
  revert hlong
  unfold LongEnough
  decide

end SecretKey

end SaasKit
