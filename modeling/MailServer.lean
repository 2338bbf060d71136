import MailServer.Store.Bytes
import MailServer.Store.Schema
import MailServer.Store.Serializer
import MailServer.Store.Key
import MailServer.Store.Layout
import MailServer.Store.Template
import MailServer.Store.Decode
import MailServer.Store.Records
import MailServer.Store.Order
import MailServer.Store.Index
import MailServer.Store.Scan
import MailServer.Store.Routing
import MailServer.Store.ReportEvent
import MailServer.Store.Capacity
import MailServer.Http.FetchBody
import MailServer.Http.IpAddr
import MailServer.Http.Forwarded
import MailServer.Http.Router
import MailServer.Http.Access
import MailServer.Http.Contract
import MailServer.Http.Session
import MailServer.Http.Response
import MailServer.Http.Reply
import MailServer.Http.Display
import MailServer.Http.ResponseUrl
import MailServer.Sieve.HttpHeader
