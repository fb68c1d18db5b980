import UriEndpoint.Text.Lowercase

/-!
# Sensitive names

The names under which credentials travel, in query entries and in log fields, compared without
regard to letter case.
-/

namespace UriEndpoint.Redaction

/-- The names whose values are masked, in lower case. -/
def sensitiveNames : List Text :=
  ["password", "passwd", "secret", "token", "api_key", "apikey", "key", "auth", "authorization",
    "credential", "credentials", "access_token", "refresh_token", "client_secret", "signature",
    "sig"].map String.toList

/-- The names of fields that hold a built URI, in lower case. -/
def uriNames : List Text := ["uri", "url"].map String.toList

/-- What stands in place of a masked value. -/
def mask : Text := "[REDACTED]".toList

/-- Whether the values under a name are masked. -/
def isSensitive (name : Text) : Bool := sensitiveNames.contains name.lowercase

/-- Whether a name is that of a field that holds a URI. -/
def isUriName (name : Text) : Bool := uriNames.contains name.lowercase

end UriEndpoint.Redaction
