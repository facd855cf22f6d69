/-! # Embedded templates

The sources of the templates that are used where none is given. -/

namespace ServiceBus.Adaptor.Embedded

/-- A text of whole lines. -/
def ofLines (lines : List String) : String :=
  String.join (lines.map (· ++ "\n"))

/-- The frame of an artifact. -/
def fileSource : String := ofLines [
  "// Code generated by \x7b\x7bgenerator\x7d\x7d. DO NOT EDIT.",
  "// source: \x7b\x7bsource\x7d\x7d",
  "",
  "\x7b\x7bimports\x7d\x7d\x7b\x7bservices\x7d\x7d"]

/-- A service: its server interface, its registration and its client. -/
def serviceSource : String := ofLines [
  "",
  "/// Server API for the `\x7b\x7bservice\x7d\x7d` service.",
  "\x7b\x7bservice_docs\x7d\x7d#[async_trait]",
  "pub trait \x7b\x7bservice\x7d\x7dServer: Send + Sync + 'static \x7b",
  "\x7b\x7bserver_methods\x7d\x7d\x7d",
  "",
  "/// Register every `\x7b\x7bservice\x7d\x7d` method as a bus endpoint.",
  "///",
  "/// Requests are dispatched on a worker pool sized by",
  "/// `options.concurrent_jobs()`. Endpoints are served on",
  "/// `\x7binstance\x7d.svc.\x7b\x7bservice_lower\x7d\x7d.\x7bmethod\x7d`, where" ++
    " `\x7binstance\x7d` is",
  "/// `config.name`.",
  "pub async fn new_\x7b\x7bservice_snake\x7d\x7d_bus_server<S: \x7b\x7bservice\x7d\x7dServer>(",
  "    ctx: &context::Context,",
  "    conn: &transport::Connection,",
  "    server: S,",
  "    config: service::ServiceConfig,",
  "    options: service::ServerOptions,",
  ") -> Result<service::ConcurrentService, transport::TransportError> \x7b",
  "    let bus_service = service::Service::add(conn, &config)?;",
  "    let pool = Arc::new(service::WorkerPool::new(options.concurrent_jobs()));",
  "    let server = Arc::new(server);",
  "\x7b\x7bendpoints\x7d\x7d",
  "    Ok(service::ConcurrentService::new(bus_service, pool))",
  "\x7d",
  "\x7b\x7bhandlers\x7d\x7d",
  "/// Client API for the `\x7b\x7bservice\x7d\x7d` service.",
  "#[derive(Debug, Clone)]",
  "pub struct \x7b\x7bservice\x7d\x7dBusClient \x7b",
  "    inner: client::Client,",
  "\x7d",
  "",
  "impl \x7b\x7bservice\x7d\x7dBusClient \x7b",
  "    /// Create a client for the service instance registered as `instance`.",
  "    pub fn new(conn: transport::Connection, instance: impl Into<String>) -> Self \x7b",
  "        Self \x7b",
  "            inner: client::Client::new(conn, instance),",
  "        \x7d",
  "    \x7d",
  "",
  "    /// Parent every call span on `span`.",
  "    pub fn with_parent_span(mut self, span: tracing::Span) -> Self \x7b",
  "        self.inner = self.inner.with_parent_span(span);",
  "        self",
  "    \x7d",
  "\x7b\x7bclient_methods\x7d\x7d\x7d"]

/-- A method of the server interface. -/
def serverMethodSource : String := ofLines [
  "\x7b\x7bdocs\x7d\x7d    async fn \x7b\x7bmethod_fn\x7d\x7d(",
  "        &self,",
  "        ctx: context::Context,",
  "        request: \x7b\x7binput\x7d\x7d,",
  "    ) -> Result<\x7b\x7boutput\x7d\x7d, status::BoxError>;"]

/-- The registration of a method as an endpoint. -/
def endpointSource : String := ofLines [
  "    \x7b",
  "        let subject = service::subject(\"\x7b\x7bservice\x7d\x7d\"," ++
    " \"\x7b\x7bmethod\x7d\x7d\", Some(config.name.as_str()));",
  "        let handler = \x7b\x7bhandler\x7d\x7d \x7b",
  "            server: Arc::clone(&server),",
  "            subject: subject.clone(),",
  "            span: options.parent_span().clone(),",
  "        \x7d;",
  "        bus_service",
  "            .add_endpoint(",
  "                ctx,",
  "                service::EndpointConfig::new(\"\x7b\x7bmethod\x7d\x7d\"," ++
    " subject).with_description(\x7b\x7bdescription\x7d\x7d),",
  "                pool.bind(Arc::new(handler)),",
  "            )",
  "            .await?;",
  "    \x7d"]

/-- The handler of a method. -/
def handlerSource : String := ofLines [
  "",
  "struct \x7b\x7bhandler\x7d\x7d<S> \x7b",
  "    server: Arc<S>,",
  "    subject: String,",
  "    span: tracing::Span,",
  "\x7d",
  "",
  "#[async_trait]",
  "impl<S: \x7b\x7bservice\x7d\x7dServer> service::Handler for \x7b\x7bhandler\x7d\x7d<S> \x7b",
  "    async fn handle(&self, ctx: context::Context, mut request: transport::Request) \x7b",
  "        let span = tracing::info_span!(parent: &self.span," ++
    " \"\x7b\x7bmethod_snake\x7d\x7d\", subject = %self.subject);",
  "        async move \x7b",
  "            let input: \x7b\x7binput\x7d\x7d = match codec::decode(request.data()) \x7b",
  "                Ok(input) => input,",
  "                Err(err) => \x7b",
  "                    tracing::error!(subject = %self.subject, reason = %err," ++
    " \"decoding request\");",
  "                    status::signal_error(&mut request," ++
    " &status::HandlerError::Decode(err)).await;",
  "                    return;",
  "                \x7d",
  "            \x7d;",
  "            let output = match self.server.\x7b\x7bmethod_fn\x7d\x7d(ctx, input).await \x7b",
  "                Ok(output) => output,",
  "                Err(err) => \x7b",
  "                    tracing::error!(subject = %self.subject, reason = %err, \"service error\");",
  "                    status::signal_error(&mut request," ++
    " &status::HandlerError::invoke(err)).await;",
  "                    return;",
  "                \x7d",
  "            \x7d;",
  "            let payload = match codec::encode(&output) \x7b",
  "                Ok(payload) => payload,",
  "                Err(err) => \x7b",
  "                    tracing::error!(subject = %self.subject, reason = %err," ++
    " \"encoding response\");",
  "                    status::signal_error(&mut request," ++
    " &status::HandlerError::Encode(err)).await;",
  "                    return;",
  "                \x7d",
  "            \x7d;",
  "            if let Err(err) = request.respond(payload).await \x7b",
  "                tracing::error!(subject = %self.subject, reason = %err, \"sending response\");",
  "                status::signal_error(&mut request, &status::HandlerError::Reply(err)).await;",
  "            \x7d",
  "        \x7d",
  "        .instrument(span)",
  "        .await",
  "    \x7d",
  "\x7d"]

/-- A method of the client. -/
def clientMethodSource : String := ofLines [
  "",
  "\x7b\x7bdocs\x7d\x7d    pub async fn \x7b\x7bmethod_fn\x7d\x7d(",
  "        &self,",
  "        ctx: &context::Context,",
  "        request: &\x7b\x7binput\x7d\x7d,",
  "    ) -> Result<\x7b\x7boutput\x7d\x7d, client::ClientError> \x7b",
  "        let subject = self.inner.subject(\"\x7b\x7bservice\x7d\x7d\"," ++
    " \"\x7b\x7bmethod\x7d\x7d\");",
  "        let span = tracing::info_span!(parent: self.inner.parent_span()," ++
    " \"\x7b\x7bmethod_snake\x7d\x7d\", subject = %subject);",
  "        self.inner.call(ctx, &subject, request).instrument(span).await",
  "    \x7d"]

end ServiceBus.Adaptor.Embedded
