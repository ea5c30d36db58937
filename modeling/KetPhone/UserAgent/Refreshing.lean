/-
This file follows the lifetime of a binding from a registrar's answer to the next
REGISTER. `on_register_final` takes for its own every Contact header whose first
URI contains the local address, and of it the first lifetime, whosever it is; the
last such header counts. So the refresh follows this side's binding exactly when
that header says the same.
-/

import KetPhone.Addressing
import KetPhone.UserAgent.Dispatch

namespace KetPhone.Core

open Sip List UserAgent

/-! ### Bindings -/

/-- A binding in a Contact header: the URI between brackets, with what stands before and behind
them, or the URI alone. -/
inductive Binding where
  | bracketed (front uri behind : Bytes)
  | bare (uri behind : Bytes)
  deriving DecidableEq

namespace Binding

def uri : Binding → Bytes
  | bracketed _ uri _ => uri
  | bare uri _ => uri

/-- The parameters of the binding itself. -/
def behind : Binding → Bytes
  | bracketed _ _ behind => behind
  | bare _ behind => behind

def text : Binding → Bytes
  | bracketed front uri behind => front ++ 60 :: (uri ++ 62 :: behind)
  | bare uri behind => uri ++ behind

/-- The value of a header that lists bindings. -/
def header (bindings : List Binding) : Bytes := List.intercalate [44] (bindings.map text)

/-- The lifetime that the binding carries. -/
def lifetime (binding : Binding) : Option Nat :=
  (firstNamed (ascii "expires") binding.behind).bind fun parameter =>
    parseInteger 32 (parameterValue parameter)

end Binding

namespace UserAgentConfig

/-- The URI that the agent gives as its contact. -/
def contactUri (config : UserAgentConfig) : Bytes :=
  ascii "sip:" ++ config.extension ++ ascii "@" ++ config.sentBy ++ ascii ";transport=" ++
    lowercase config.transport

/-- A header that is taken for this side's, and the lifetime that is read from it. -/
def Grants (config : UserAgentConfig) (value : Bytes) (granted : Nat) : Prop :=
  (findText config.localAddress (uriOf value)).isSome ∧
    (paramOf value "expires").bind (parseInteger 32) = some granted

end UserAgentConfig

/-- The bindings that a registrar lists, each header with its own, where exactly one has the
contact of this side. -/
structure Bindings (config : UserAgentConfig) where
  headers : List (List Binding)
  own : Binding
  once : headers.flatten.filter (fun binding => binding.uri = config.contactUri) = [own]
  lifetime : Nat
  carries : own.lifetime = some lifetime

/-- Two lifetimes after which the agent refreshes at the same time. -/
def SameRefresh (first second : Nat) : Prop := max (first / 2) 5 = max (second / 2) 5

/-- The last header that is taken for this side's says when its own binding is to be refreshed;
or none is, and the lifetime that was asked for does. -/
def Bindings.Decides {config : UserAgentConfig} (bindings : Bindings config) (asked : UInt32) :
    Prop :=
  (∃ before value after granted, bindings.headers.map Binding.header = before ++ value :: after ∧
    config.Grants value granted ∧ (∀ later ∈ after, ∀ other, ¬ config.Grants later other) ∧
    SameRefresh granted bindings.lifetime) ∨
  (∀ value ∈ bindings.headers.map Binding.header, ∀ other, ¬ config.Grants value other) ∧
    SameRefresh asked.toNat bindings.lifetime

/-- This side's binding opens its header, in brackets, and no later header opens with a URI at the
local address. -/
def Bindings.Opens {config : UserAgentConfig} (bindings : Bindings config) : Prop :=
  ∃ before rest after front behind,
    bindings.headers = before ++ (bindings.own :: rest) :: after ∧
    bindings.own = .bracketed front config.contactUri behind ∧ 60 ∉ front ∧ 62 ∉ front ∧
    62 ∉ config.contactUri ∧ trim config.contactUri = config.contactUri ∧
    ∀ value ∈ after.map Binding.header, findText config.localAddress (uriOf value) = none

/-! ### The lifetime that is read -/

namespace UserAgentConfig

variable {config : UserAgentConfig}

/-- What one header makes of the lifetime so far. -/
def grant (config : UserAgentConfig) (granted : Nat) (value : Bytes) : Nat :=
  if (findText config.localAddress (uriOf value)).isNone then granted
  else
    match paramOf value "expires" with
    | none => granted
    | some param => (parseInteger 32 param).getD granted

theorem grant_of_grants {value : Bytes} {granted : Nat} (grants : config.Grants value granted)
    (before : Nat) : config.grant before value = granted := by
  obtain ⟨own, read⟩ := grants
  obtain ⟨param, found, number⟩ := Option.bind_eq_some_iff.mp read
  rw [grant, if_neg (by simp [Option.isSome_iff_ne_none.mp own]), found]
  exact congrArg (Option.getD · before) number

theorem grant_of_not_grants {value : Bytes} (refuses : ∀ granted, ¬ config.Grants value granted)
    (before : Nat) : config.grant before value = before := by
  unfold grant
  split
  · rfl
  next own =>
    have own : (findText config.localAddress (uriOf value)).isSome := by
      simpa [Option.isSome_iff_ne_none] using own
    split
    · rfl
    next param found =>
      cases number : parseInteger 32 param with
      | none => rfl
      | some granted =>
        exact absurd ⟨own, by rw [found]; exact number⟩ (refuses granted)

theorem foldl_grant_of_not_grants {values : List Bytes}
    (refuses : ∀ value ∈ values, ∀ granted, ¬ config.Grants value granted) (before : Nat) :
    values.foldl config.grant before = before := by
  induction values with
  | nil => rfl
  | cons value values hypothesis =>
    rw [foldl_cons, grant_of_not_grants (refuses value mem_cons_self)]
    exact hypothesis fun later member => refuses later (mem_cons_of_mem _ member)

/-- Either no header is taken for this side's, or the last that is counts. -/
theorem foldl_grant_cases (values : List Bytes) (asked : Nat) :
    (∃ before value after granted, values = before ++ value :: after ∧
      config.Grants value granted ∧ (∀ later ∈ after, ∀ other, ¬ config.Grants later other) ∧
      values.foldl config.grant asked = granted) ∨
    (∀ value ∈ values, ∀ other, ¬ config.Grants value other) ∧
      values.foldl config.grant asked = asked := by
  induction values using List.reverseRecOn with
  | nil => exact Or.inr ⟨forall_mem_nil _, rfl⟩
  | append_singleton values value hypothesis =>
    rw [foldl_concat]
    by_cases own : ∃ granted, config.Grants value granted
    · obtain ⟨granted, grants⟩ := own
      exact Or.inl ⟨values, value, [], granted, rfl, grants, forall_mem_nil _,
        grant_of_grants grants _⟩
    · rw [not_exists] at own
      rw [grant_of_not_grants own]
      rcases hypothesis with ⟨before, last, after, granted, cut, grants, later, read⟩ |
        ⟨refuses, read⟩
      · refine Or.inl ⟨before, last, after ++ [value], granted, ?_, grants, ?_, read⟩
        · rw [cut, append_assoc, cons_append]
        · exact forall_mem_append.mpr ⟨later, forall_mem_singleton.mpr own⟩
      · exact Or.inr ⟨forall_mem_append.mpr ⟨refuses, forall_mem_singleton.mpr own⟩,
          read⟩

end UserAgentConfig

theorem Bindings.decides_iff {config : UserAgentConfig} (bindings : Bindings config)
    (asked : UInt32) :
    bindings.Decides asked ↔
      SameRefresh ((bindings.headers.map Binding.header).foldl config.grant asked.toNat)
        bindings.lifetime := by
  constructor
  · rintro (⟨before, value, after, granted, cut, grants, later, same⟩ | ⟨refuses, same⟩)
    · rw [cut, foldl_append, foldl_cons, UserAgentConfig.grant_of_grants grants,
        UserAgentConfig.foldl_grant_of_not_grants later]
      exact same
    · rw [UserAgentConfig.foldl_grant_of_not_grants refuses]
      exact same
  · intro same
    rcases @UserAgentConfig.foldl_grant_cases config
      (bindings.headers.map Binding.header) asked.toNat with
      ⟨before, value, after, granted, cut, grants, later, read⟩ | ⟨refuses, read⟩
    · exact Or.inl ⟨before, value, after, granted, cut, grants, later, read ▸ same⟩
    · exact Or.inr ⟨refuses, read ▸ same⟩

/-! ### A binding that opens its header -/

theorem isSome_findText (needle front back : Bytes) :
    (findText needle (front ++ (needle ++ back))).isSome := by
  have here (text : Bytes) (starts : needle <+: text) : (findText needle text).isSome := by
    cases text with
    | nil =>
      rw [prefix_nil.mp starts]
      rfl
    | cons byte text =>
      rw [findText_cons, if_pos starts]
      rfl
  induction front with
  | nil => exact here _ (prefix_append _ _)
  | cons byte front hypothesis =>
    rw [cons_append, findText]
    split
    · rfl
    · rw [Option.isSome_map]
      exact hypothesis

theorem UserAgentConfig.isSome_findText_contactUri (config : UserAgentConfig) :
    (findText config.localAddress config.contactUri).isSome := by
  obtain ⟨front, back, cut⟩ :
    ∃ front back, config.sentBy = front ++ (config.localAddress ++ back) := by
    unfold UserAgentConfig.sentBy sipHost
    split
    · exact ⟨ascii "[", _, by rw [append_assoc, append_assoc]⟩
    · exact ⟨[], _, rfl⟩
  have text : config.contactUri = (ascii "sip:" ++ config.extension ++ ascii "@" ++ front) ++
      (config.localAddress ++ (back ++ (ascii ";transport=" ++ lowercase config.transport))) := by
    rw [UserAgentConfig.contactUri, cut]
    simp only [append_assoc]
  rw [text]
  exact isSome_findText _ _ _

/-- A header that opens with a bracketed URI is read under that URI and, if it has one, with the
lifetime of that binding. -/
theorem Binding.header_bracketed {front uri behind : Bytes} (opening : 60 ∉ front)
    (closing : 62 ∉ front) (closed : 62 ∉ uri) (rest : List Binding) {parameter : Bytes}
    (first : firstNamed (ascii "expires") behind = some parameter) :
    uriOf (header (bracketed front uri behind :: rest)) = trim uri ∧
      paramOf (header (bracketed front uri behind :: rest)) "expires" =
        some (parameterValue parameter) := by
  obtain ⟨more, text, same⟩ : ∃ more,
      header (bracketed front uri behind :: rest) = front ++ 60 :: (uri ++ 62 :: more) ∧
        firstNamed (ascii "expires") more = some parameter := by
    cases rest with
    | nil => exact ⟨behind, intercalate_singleton, first⟩
    | cons next rest =>
      refine ⟨behind ++ 44 :: header (next :: rest), ?_, ?_⟩
      · unfold header
        rw [map_cons, map_cons, intercalate_cons_cons]
        simp [text]
      · rw [firstNamed, parameters_append (Or.inr rfl), List.find?_append]
        rw [firstNamed] at first
        rw [first, Option.some_or]
  have bracket : front ++ 60 :: (uri ++ 62 :: more) = (front ++ 60 :: uri) ++ 62 :: more := by simp
  have absent : 62 ∉ front ++ 60 :: uri := by simp [closing, closed]
  rw [text, uriOf_bracketed opening closed]
  refine ⟨rfl, ?_⟩
  rw [bracket, paramOf_behind absent, same, Option.map_some]

/-- The refresh follows a binding that opens its header. -/
theorem Bindings.Opens.decides {config : UserAgentConfig} {bindings : Bindings config}
    (opens : bindings.Opens) (asked : UInt32) : bindings.Decides asked := by
  obtain ⟨before, rest, after, front, behind, cut, form, opening, closing, closed, trimmed,
    later⟩ := opens
  have carries := bindings.carries
  rw [form] at carries
  obtain ⟨parameter, first, number⟩ := Option.bind_eq_some_iff.mp carries
  rw [Binding.behind] at first
  obtain ⟨uri, param⟩ := Binding.header_bracketed opening closing closed rest first
  refine Or.inl ⟨before.map Binding.header, Binding.header (bindings.own :: rest),
    after.map Binding.header, bindings.lifetime, ?_, ?_, fun value member _ grants => ?_, rfl⟩
  · rw [cut, map_append, map_cons]
  · rw [form]
    refine ⟨?_, by rw [param]; exact number⟩
    rw [uri, trimmed]
    exact config.isSome_findText_contactUri
  · have found := grants.1
    rw [later value member] at found
    cases found

/-! ### The refresh -/

namespace UserAgent

variable {Host : Type} [UserAgentHost Host] {agent : UserAgent Host}

/-- A success to a wanted REGISTER is concluded at once. -/
theorem onRegisterFinal_success {response : Message} {expires : UInt32}
    (wanted : agent.registration.wanted = true) (asked : expires ≠ 0)
    (success : isSuccess response.status = true) (authenticated : Bool) (now : Time) :
    (agent.onRegisterFinal (some response) expires authenticated now).registration.nextAttempt =
      some (now + max (seconds (grantedExpires agent.config response expires / 2 : Nat))
        kMinimumRefresh) := by
  have settled : ¬ ((response.status = 401 ∨ response.status = 407) ∧ !authenticated) := by
    rintro ⟨equal | equal, -⟩ <;> rw [equal] at success <;> exact nomatch success
  have kept : agent.landed.answerChallenge (some response) authenticated = (none, agent.landed) :=
    if_neg settled
  have still : agent.landed.registration.wanted = true := wanted
  unfold onRegisterFinal
  rw [kept]
  dsimp only
  rw [if_neg asked, still, Bool.not_true, if_neg Bool.false_ne_true]
  unfold concludeRegister
  dsimp only [Option.map_some, Option.getD_some]
  rw [success, if_pos rfl]
  rfl

end UserAgent

theorem refresh_eq_iff (now : Time) (first second : Nat) :
    some (now + max (seconds (first / 2 : Nat)) kMinimumRefresh) =
        some (now + max (seconds (second / 2 : Nat)) kMinimumRefresh) ↔
      SameRefresh first second := by
  have scaled (lifetime : Nat) : max (seconds (lifetime / 2 : Nat)) kMinimumRefresh =
      seconds (max (lifetime / 2) 5 : Nat) := by
    show (max (((lifetime / 2 : Nat) : Int) * 1000000000) (5 * 1000000000) : Int) =
      ((max (lifetime / 2) 5 : Nat) : Int) * 1000000000
    omega
  rw [scaled, scaled, Option.some.injEq, Int.add_right_inj]
  unfold seconds SameRefresh
  omega

/-- The refresh follows this side's binding exactly when the last header that is taken for it says
when that is, as it does when the binding opens its header and no later one is like it. -/
theorem refresh_follows_own_iff {Host : Type} [UserAgentHost Host] {agent : UserAgent Host}
    {response : Message} {expires : UInt32} (wanted : agent.registration.wanted = true)
    (asked : expires ≠ 0) (success : UserAgent.isSuccess response.status = true)
    (silent : response.header "expires" = none) (bindings : Bindings agent.config)
    (listed : response.headerAll "contact" = bindings.headers.map Binding.header)
    (authenticated : Bool) (now : Time) :
    ((agent.onRegisterFinal (some response) expires authenticated now).registration.nextAttempt =
        some (now + max (seconds (bindings.lifetime / 2 : Nat)) kMinimumRefresh) ↔
      bindings.Decides expires) ∧ (bindings.Opens → bindings.Decides expires) := by
  have granted : grantedExpires agent.config response expires =
      (bindings.headers.map Binding.header).foldl agent.config.grant expires.toNat := by
    rw [grantedExpires, silent, ← listed]
    rfl
  refine ⟨?_, fun opens => opens.decides expires⟩
  rw [onRegisterFinal_success wanted asked success, granted, refresh_eq_iff,
    bindings.decides_iff]

/-- A wanted registration of an account at 10.0.0.9. -/
def applying : UserAgent IdealHost := UserAgent.ideal.startRegistration 0

/-- A success that lists bindings. -/
def successListing (headers : List (List Binding)) : Message :=
  { isResponse := true
    status := 200
    headers := headers.map fun bindings => (ascii "contact", Binding.header bindings) }

/-- This side's contact with a lifetime of a minute. -/
def ownBinding : Binding := .bracketed [] applying.config.contactUri (ascii ";expires=60")

/-- Another device, at an address that continues this side's. -/
def neighbour : Binding := .bracketed [] (ascii "sip:100@10.0.0.95:5060") (ascii ";expires=3600")

def neighbourFirst : Bindings applying.config where
  headers := [[neighbour], [ownBinding, neighbour]]
  own := ownBinding
  once := by decide +kernel
  lifetime := 60
  carries := by decide +kernel

theorem neighbourFirst_refresh :
    (applying.onRegisterFinal (some (successListing neighbourFirst.headers)) 300 false
        0).registration.nextAttempt = some (0 + max (seconds (60 / 2 : Nat)) kMinimumRefresh) := by
  obtain ⟨follows, opens⟩ :=
    @refresh_follows_own_iff IdealHost _ applying (successListing neighbourFirst.headers) 300
      (by decide +kernel) (by decide) (by decide) (by decide +kernel) neighbourFirst
      (by decide +kernel) false 0
  refine follows.mpr (opens ⟨[[neighbour]], [neighbour], [], [], ascii ";expires=60", rfl, rfl, ?_⟩)
  exact ⟨by decide, by decide, by decide +kernel, by decide +kernel, List.forall_mem_nil _⟩

/-- The same bindings with the other device in the later header. -/
def neighbourLast : Bindings applying.config where
  headers := [[ownBinding], [neighbour]]
  own := ownBinding
  once := by decide +kernel
  lifetime := 60
  carries := by decide +kernel

/-- The agent waits for half an hour with a binding that ends after a minute. -/
theorem neighbourLast_not_refresh :
    (applying.onRegisterFinal (some (successListing neighbourLast.headers)) 300 false
        0).registration.nextAttempt ≠ some (0 + max (seconds (60 / 2 : Nat)) kMinimumRefresh) := by
  decide +kernel

end KetPhone.Core
