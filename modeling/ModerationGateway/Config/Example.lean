/-!
# A configuration to start from

* `Config.exampleText`: a configuration file with comments.
-/

namespace ModerationGateway.Config

/-- A configuration file with comments. -/
def exampleText : String :=
  "# ContentGuard configuration

[proxy]
upstream = \"https://api.openai.com\"
host = \"127.0.0.1\"
port = 8080
timeout_secs = 60
max_body_size = 10485760
# api_key = \"sk-...\"   # injected when the client sends no Authorization

[words]
dir = \"./words\"        # <dir>/<source>.txt, one keyword per line

[[route]]
path = \"/v1/chat/completions\"
rule = \"chat\"

[[rule]]
id = \"chat\"

[rule.content_security]
vendor = \"zkrj\"
url = \"https://moderation.example.com/check\"
access_key = \"\"
access_token = \"\"
batch_size = 10
window_size = 200
failure_policy = \"fail_closed\"   # or \"fail_open\"; required
tail_check = false

[rule.content_security.breaker]
request_volume_threshold = 30
error_threshold_percentage = 70
sleep_window_ms = 15000
rolling_window_ms = 10000
timeout_ms = 1800
max_concurrent = 200

[rule.sensitive_words]
source = \"default\"
version = \"1\"
match_mode = \"first_per_position\"
"

end ModerationGateway.Config
