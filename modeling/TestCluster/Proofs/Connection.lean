import TestCluster.Cluster.Launcher
import TestCluster.Proofs.Properties
import TestCluster.Proofs.Text.Reference

namespace TestCluster

namespace Properties

def rows (table : List (String × Option String)) : List (String × String) :=
  table.flatMap fun (name, text) => pathProperty name text

variable {table : List (String × Option String)} {name other : String}

theorem rows_cons (name : String) (text : Option String) (table : List (String × Option String)) :
    rows ((name, text) :: table) = pathProperty name text ++ rows table := rfl

theorem lookup_pathProperty (text : Option String) :
    (pathProperty other text).lookup name = if name = other then text else none := by
  cases text with
  | none => exact (ite_self none).symm
  | some text =>
    unfold pathProperty
    by_cases hname : name = other
    · simp [hname]
    · simp [hname, beq_false_of_ne hname]

theorem names_rows_sublist (table : List (String × Option String)) :
    List.Sublist ((rows table).map (·.1)) (table.map (·.1)) := by
  induction table with
  | nil => exact .slnil
  | cons row table ih =>
    obtain ⟨name, text⟩ := row
    cases text with
    | none => exact ih.cons name
    | some text => exact ih.cons_cons name

theorem lookup_eq_none_of_not_mem (h : name ∉ table.map (·.1)) : table.lookup name = none := by
  rw [List.lookup_eq_none_iff]
  intro row hrow
  have hne : name ≠ row.1 := by
    rintro rfl
    exact h (List.mem_map_of_mem (f := (·.1)) hrow)
  exact bne_iff_ne.mpr hne

theorem lookup_rows (hnodup : (table.map (·.1)).Nodup) :
    (rows table).lookup name = (table.lookup name).join := by
  induction table with
  | nil => rfl
  | cons row table ih =>
    obtain ⟨other, text⟩ := row
    obtain ⟨hother, hrest⟩ := List.nodup_cons.mp hnodup
    rw [rows_cons, List.lookup_append, lookup_pathProperty, ih hrest, List.lookup_cons]
    by_cases hname : name = other
    · subst hname
      rw [lookup_eq_none_of_not_mem hother, if_pos rfl, beq_self_eq_true]
      exact Option.or_none
    · rw [if_neg hname, beq_false_of_ne hname]
      exact Option.none_or

end Properties

open Properties (rows)

def tlsSettings (tls : Option Tls) : List (String × Option String) :=
  [("ssl.ca.location", tls.bind (·.caPath)),
    ("ssl.certificate.location", tls.bind (·.certPath)),
    ("ssl.key.location", tls.bind (·.keyPath)),
    ("enable.ssl.certificate.verification",
      if tls.any (·.skipVerify) then some "false" else none)]

def saslSettings (env : Environment) (sasl : Option Sasl) : List (String × Option String) :=
  [("sasl.mechanism", sasl.map (·.mechanism.name)),
    ("sasl.username", sasl.map fun s => expandText env s.username),
    ("sasl.password", sasl.map fun s => expandText env s.password)]

theorem rows_tlsSettings (tls : Option Tls) :
    rows (tlsSettings tls) = tls.elim [] Tls.properties := by
  cases tls with
  | none => rfl
  | some tls =>
    obtain ⟨caPath, certPath, keyPath, skipVerify⟩ := tls
    cases skipVerify <;> simp [rows, tlsSettings, Tls.properties, pathProperty]

theorem rows_saslSettings (env : Environment) (sasl : Option Sasl) :
    rows (saslSettings env sasl) = sasl.elim [] (·.properties env) := by
  cases sasl <;> rfl

def Sasl.mentioned (s : Sasl) : List String :=
  Text.Reference.mentioned s.username ++ Text.Reference.mentioned s.password

namespace ClusterConfig

variable (env env' : Environment) (c c' : ClusterConfig)

/-- The section on encryption, where the protocol encrypts. -/
def tlsInUse? : Option Tls :=
  match c.protocol with
  | .ssl | .saslSsl => c.tls
  | .plaintext | .saslPlaintext => none

def saslInUse? : Option Sasl :=
  match c.protocol with
  | .saslPlaintext | .saslSsl => c.sasl
  | .plaintext | .ssl => none

def protocolInUse? : Option String :=
  if c.protocol = .plaintext then none else some c.protocol.clientName

def securitySettings : List (String × Option String) :=
  ("security.protocol", c.protocolInUse?)
    :: (tlsSettings c.tlsInUse? ++ saslSettings env c.saslInUse?)

def settings : List (String × Option String) :=
  (serversProperty, some (",".intercalate c.servers)) :: c.securitySettings env

/-- The properties of a client of a cluster that someone else started. -/
def externalProperties : Except ConfigError Properties :=
  (ExternalCluster.ofConfig env c).map (·.connection.clientProperties)

theorem rows_securitySettings : rows (c.securitySettings env) = c.securityList env := by
  have hrows : rows (c.securitySettings env) =
      pathProperty "security.protocol" c.protocolInUse?
        ++ (c.tlsInUse?.elim [] Tls.properties ++ c.saslInUse?.elim [] (·.properties env)) := by
    rw [← rows_tlsSettings, ← rows_saslSettings]
    exact List.flatMap_cons.trans (congrArg _ List.flatMap_append)
  rw [hrows]
  unfold protocolInUse? tlsInUse? saslInUse? securityList
  cases c.protocol <;> simp [pathProperty, SecurityProtocol.usesTls, SecurityProtocol.usesSasl]

theorem nodup_settings : ((c.settings env).map (·.1)).Nodup := by
  have hnames : (c.settings env).map (·.1) =
      ["bootstrap.servers", "security.protocol", "ssl.ca.location", "ssl.certificate.location",
        "ssl.key.location", "enable.ssl.certificate.verification", "sasl.mechanism",
        "sasl.username", "sasl.password"] := rfl
  rw [hnames]
  decide

variable {env env' c c'}

theorem lookup_of_ne {name : String} (h : name ≠ serversProperty) :
    (c.settings env).lookup name = (c.securitySettings env).lookup name := by
  unfold settings
  rw [List.lookup_cons, beq_false_of_ne h]

theorem get?_clientProperties (name : String) :
    (Connection.clientProperties ⟨",".intercalate c.servers, c.securityProperties env⟩).get? name =
      ((c.settings env).lookup name).join := by
  obtain ⟨hservers, hnodup⟩ := List.nodup_cons.mp (c.nodup_settings env)
  have hrows : ((c.securityList env).map (·.1)).Nodup := by
    rw [← rows_securitySettings]
    exact hnodup.sublist (Properties.names_rows_sublist _)
  have hsecurity : (c.securityProperties env).get? name =
      ((c.securitySettings env).lookup name).join := by
    unfold securityProperties
    rw [Properties.get?_ofList hrows, ← rows_securitySettings, Properties.lookup_rows hnodup]
  unfold Connection.clientProperties
  rw [Properties.get?_overlay_toList, hsecurity, Properties.get?_insert]
  by_cases hname : name = serversProperty
  · subst hname
    have hother := Properties.lookup_eq_none_of_not_mem hservers
    rw [settings, List.lookup_cons, hother, if_pos rfl, beq_self_eq_true]
    rfl
  · rw [if_neg hname, lookup_of_ne hname]
    exact Option.or_none

theorem externalProperties_ok (c : ClusterConfig) (env : Environment) (h : c.servers ≠ []) :
    ∃ p, c.externalProperties env = .ok p
      ∧ ∀ name, p.get? name = ((c.settings env).lookup name).join := by
  refine ⟨_, ?_, get?_clientProperties⟩
  unfold externalProperties ExternalCluster.ofConfig
  rw [if_neg h, Except.map]

theorem externalProperties_of_nil (h : c.servers = []) :
    c.externalProperties env = .error .noServers := by
  unfold externalProperties ExternalCluster.ofConfig
  rw [if_pos h, Except.map]

theorem externalProperties_congr (hservers : c.servers = c'.servers)
    (hsettings : c.settings env = c'.settings env') :
    c.externalProperties env = c'.externalProperties env' := by
  by_cases h : c.servers = []
  · have h' : c'.servers = [] := hservers ▸ h
    rw [externalProperties_of_nil h, externalProperties_of_nil h']
  · have h' : c'.servers ≠ [] := hservers ▸ h
    obtain ⟨p, hp, hget⟩ := c.externalProperties_ok env h
    obtain ⟨p', hp', hget'⟩ := c'.externalProperties_ok env' h'
    have heq : p = p' := by
      apply Properties.ext_get?
      intro name
      rw [hget, hget', hsettings]
    rw [hp, hp', heq]

theorem externalProperties_of_saslInUse (s : Option Sasl) (h : c.saslInUse? = none)
    (h' : { c with sasl := s }.saslInUse? = none) :
    c.externalProperties env = { c with sasl := s }.externalProperties env' := by
  refine externalProperties_congr rfl ?_
  simp only [settings, securitySettings, h, h', saslSettings]
  rfl

theorem externalProperties_of_tlsInUse (t : Option Tls) (h : c.tlsInUse? = none)
    (h' : { c with tls := t }.tlsInUse? = none) :
    c.externalProperties env = { c with tls := t }.externalProperties env := by
  refine externalProperties_congr rfl ?_
  simp only [settings, securitySettings, h, h', tlsSettings]
  rfl

theorem saslSettings_congr {s? : Option Sasl}
    (h : ∀ s, s? = some s → ∀ name ∈ s.mentioned, env name = env' name) :
    saslSettings env s? = saslSettings env' s? := by
  cases s? with
  | none => rfl
  | some s =>
    have husername : expandText env s.username = expandText env' s.username :=
      Text.Reference.expandText_congr fun name hname =>
        h s rfl name (List.mem_append_left _ hname)
    have hpassword : expandText env s.password = expandText env' s.password :=
      Text.Reference.expandText_congr fun name hname =>
        h s rfl name (List.mem_append_right _ hname)
    simp only [saslSettings, Option.map_some, husername, hpassword]

theorem saslSettings_inj {s : Sasl} :
    saslSettings env (some s) = saslSettings env' (some s) ↔
      expandText env s.username = expandText env' s.username ∧
        expandText env s.password = expandText env' s.password := by
  simp [saslSettings]

theorem lookup_username :
    ((c.settings env).lookup "sasl.username").join =
      c.saslInUse?.map fun s => expandText env s.username := rfl

theorem lookup_password :
    ((c.settings env).lookup "sasl.password").join =
      c.saslInUse?.map fun s => expandText env s.password := rfl

theorem externalProperties_eq_iff {s : Sasl} (hservers : c.servers ≠ [])
    (hsasl : c.saslInUse? = some s) :
    c.externalProperties env = c.externalProperties env' ↔
      expandText env s.username = expandText env' s.username ∧
        expandText env s.password = expandText env' s.password := by
  constructor
  · intro heq
    obtain ⟨p, hp, hget⟩ := c.externalProperties_ok env hservers
    obtain ⟨p', hp', hget'⟩ := c.externalProperties_ok env' hservers
    have hsame : p = p' := by
      rw [hp, hp'] at heq
      exact Except.ok.inj heq
    have hlookup : ∀ name,
        ((c.settings env).lookup name).join = ((c.settings env').lookup name).join := by
      intro name
      rw [← hget, hsame, hget']
    have husername := hlookup "sasl.username"
    have hpassword := hlookup "sasl.password"
    rw [lookup_username, lookup_username, hsasl] at husername
    rw [lookup_password, lookup_password, hsasl] at hpassword
    exact ⟨Option.some.inj husername, Option.some.inj hpassword⟩
  · intro heq
    refine externalProperties_congr rfl ?_
    simp only [settings, securitySettings, hsasl, saslSettings_inj.mpr heq]

theorem saslInUse?_eq_none (h : c.protocol = .plaintext ∨ c.protocol = .ssl) :
    c.saslInUse? = none := by
  unfold saslInUse?
  obtain heq | heq := h <;> rw [heq]

theorem saslInUse?_eq (h : c.protocol = .saslPlaintext ∨ c.protocol = .saslSsl) :
    c.saslInUse? = c.sasl := by
  unfold saslInUse?
  obtain heq | heq := h <;> rw [heq]

theorem sasl_of_saslInUse {s : Sasl} (h : c.saslInUse? = some s) : c.sasl = some s := by
  unfold saslInUse? at h
  split at h
  · exact h
  · exact h
  · contradiction
  · contradiction

theorem tlsInUse?_eq_none (h : c.protocol = .plaintext ∨ c.protocol = .saslPlaintext) :
    c.tlsInUse? = none := by
  unfold tlsInUse?
  obtain heq | heq := h <;> rw [heq]

/-- What a client of a cluster that someone else started is told, and what it depends on.
Credentials are told only where the protocol asks for them, with no more of the environment than the
variables in them, and the settings of encryption only where the protocol encrypts. -/
theorem externalProperties_exact (env env' : Environment) (c : ClusterConfig) :
    (c.servers ≠ [] →
      ∃ p, c.externalProperties env = .ok p ∧
        p.get? "bootstrap.servers" = some (",".intercalate c.servers) ∧
        ∀ name, name ≠ "bootstrap.servers" →
          p.get? name = ((c.securitySettings env).lookup name).join) ∧
    (c.protocol = .plaintext ∨ c.protocol = .ssl → ∀ sasl,
      c.externalProperties env = { c with sasl := sasl }.externalProperties env') ∧
    (c.protocol = .plaintext ∨ c.protocol = .saslPlaintext → ∀ tls,
      c.externalProperties env = { c with tls := tls }.externalProperties env) ∧
    ((∀ s, c.sasl = some s → ∀ name ∈ s.mentioned, env name = env' name) →
      c.externalProperties env = c.externalProperties env') ∧
    (c.protocol = .saslPlaintext ∨ c.protocol = .saslSsl → c.servers ≠ [] → ∀ s, c.sasl = some s →
      (c.externalProperties env = c.externalProperties env' ↔
        expandText env s.username = expandText env' s.username ∧
          expandText env s.password = expandText env' s.password)) := by
  refine ⟨?_, ?_, ?_, ?_, ?_⟩
  · intro hservers
    obtain ⟨p, hp, hget⟩ := c.externalProperties_ok env hservers
    refine ⟨p, hp, hget _, ?_⟩
    intro name hname
    rw [hget, lookup_of_ne hname]
  · intro hprotocol sasl
    exact externalProperties_of_saslInUse sasl (saslInUse?_eq_none hprotocol)
      (saslInUse?_eq_none hprotocol)
  · intro hprotocol tls
    exact externalProperties_of_tlsInUse tls (tlsInUse?_eq_none hprotocol)
      (tlsInUse?_eq_none hprotocol)
  · intro hsame
    have hinUse : ∀ s, c.saslInUse? = some s → ∀ name ∈ s.mentioned, env name = env' name :=
      fun s hs => hsame s (sasl_of_saslInUse hs)
    refine externalProperties_congr rfl ?_
    simp only [settings, securitySettings, saslSettings_congr hinUse]
  · intro hprotocol hservers s hs
    exact externalProperties_eq_iff hservers ((saslInUse?_eq hprotocol).trans hs)

def credentials : Sasl :=
  ⟨.plain, "u-$\x7bUSER\x7d", "s3cret"⟩

def secured : ClusterConfig where
  servers := ["b1:9093", "b2:9093"]
  protocol := .saslSsl
  tls := some { caPath := some "ca.pem" }
  sasl := some credentials

def nobody : Environment :=
  fun _ => none

def alice : Environment
  | "USER" => some "alice"
  | _ => none

def aliceAtHome : Environment
  | "USER" => some "alice"
  | _ => some "home"

theorem split_username : Text.Reference.split credentials.username.toList =
    [.char 'u', .char '-', .name "USER".toList] := by
  have hname : Text.Reference.braced? "\x7bUSER\x7d".toList = some ("USER".toList, []) := by decide
  change Text.Reference.split ('u' :: '-' :: '$' :: "\x7bUSER\x7d".toList) = _
  rw [Text.Reference.split_of_ne (by decide), Text.Reference.split_of_ne (by decide),
    Text.Reference.split_of_braced hname, Text.Reference.split]

theorem split_password : Text.Reference.split credentials.password.toList =
    "s3cret".toList.map .char := by
  have hplain : ∀ c ∈ "s3cret".toList, c ≠ '$' := by simp
  exact Text.Reference.split_of_forall_ne hplain

theorem expandText_credentials :
    expandText alice credentials.username = "u-alice" ∧
      expandText nobody credentials.username = "u-" := by
  simp only [expandText, Text.Reference.expand, split_username]
  decide

theorem mentioned_credentials : credentials.mentioned = ["USER"] := by
  simp only [Sasl.mentioned, Text.Reference.mentioned, split_username, split_password]
  decide

theorem externalProperties_of_secured :
    (∃ p, secured.externalProperties alice = .ok p ∧
      p.get? "bootstrap.servers" = some "b1:9093,b2:9093" ∧
      p.get? "ssl.ca.location" = some "ca.pem" ∧ p.get? "sasl.username" = some "u-alice") ∧
    secured.externalProperties alice ≠ secured.externalProperties nobody ∧
    secured.externalProperties alice = secured.externalProperties aliceAtHome ∧
    { secured with protocol := .ssl }.externalProperties alice =
      { secured with protocol := .ssl, sasl := none }.externalProperties nobody ∧
    { secured with protocol := .saslPlaintext }.externalProperties alice =
      { secured with protocol := .saslPlaintext, tls := none }.externalProperties alice := by
  obtain ⟨htold, -, -, -, hiff⟩ := externalProperties_exact alice nobody secured
  obtain ⟨-, -, -, hsame, -⟩ := externalProperties_exact alice aliceAtHome secured
  obtain ⟨-, hsasl, -⟩ := externalProperties_exact alice nobody { secured with protocol := .ssl }
  obtain ⟨-, -, htls, -⟩ :=
    externalProperties_exact alice nobody { secured with protocol := .saslPlaintext }
  obtain ⟨halice, hnobody⟩ := expandText_credentials
  have hservers : secured.servers ≠ [] := by decide
  obtain ⟨p, hp, hjoined, hget⟩ := htold hservers
  refine ⟨⟨p, hp, hjoined, hget _ (by decide), ?_⟩, ?_, ?_,
    hsasl (by decide) none, htls (by decide) none⟩
  · rw [hget _ (by decide)]
    exact congrArg some halice
  · intro heq
    have husername := ((hiff (by decide) hservers _ rfl).mp heq).1
    rw [halice, hnobody] at husername
    contradiction
  · apply hsame
    rintro s hs name hname
    cases hs
    rw [mentioned_credentials, List.mem_singleton] at hname
    rw [hname]
    rfl

end ClusterConfig

end TestCluster
