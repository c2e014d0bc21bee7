import ClawNet.Text.Utf8
import ClawNet.Text.Quote
import ClawNet.Http.Url
import ClawNet.Py.Float
import ClawNet.Http.Client
import ClawNet.Node.Sync
import ClawNet.Api.Endpoint
import ClawNet.Api.Route
import ClawNet.Api.Kwargs
import ClawNet.Api.Table
import ClawNet.Json.Encode
import ClawNet.Json.Decode
import ClawNet.Json.Roundtrip
import ClawNet.Json.Wire
import ClawNet.Json.Decoded
